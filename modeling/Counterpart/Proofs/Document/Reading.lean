import Counterpart.Document.Reading
import Counterpart.Proofs.Document.Settings
import Counterpart.Proofs.Document.Surface

/-!
# Accepted documents are read back

A surface or a settings document that passes its check is read back from its text, on one line or
over several, as it was.  What has been read passes its check.

* `Surface.Writes.read_eq`, `Project.read_eq`: accepted documents read back.
* `documents_round_trip`: both, and the check of what was read.
-/

namespace Counterpart

variable {α : Type} {subject : DocumentSubject} {defect? : α → Option Defect} {value : α}

theorem checked_of_accepted
    (h : defect? value = none) :
    checked subject defect? (some value) = .ok value := by
  rw [checked, h]

theorem accepted_of_checked_eq_ok
    {part : Option α} (h : checked subject defect? part = .ok value) :
    defect? value = none := by
  cases part with
  | none =>
      cases h
  | some found =>
      rw [checked] at h
      cases hdefect : defect? found with
      | some defect =>
          rw [hdefect] at h
          cases h
      | none =>
          rw [hdefect] at h
          cases h
          exact hdefect

namespace Surface

/-- A surface that is accepted is read back from each of its documents. -/
theorem Writes.read_eq
    {side : Side} {surface : Surface} {json : Json} {text : String} (h : surface.Writes json)
    (haccepted : surface.defect? side = none) (htext : text ∈ json.texts) :
    Surface.read side text = .ok surface := by
  rw [Surface.read, h.fitsIn.read?_of_mem_texts (by decide) htext, Option.bind_some, h.ofJson?_eq,
    checked_of_accepted haccepted]

theorem accepted_of_read_eq_ok
    {side : Side} {text : String} {surface : Surface} (h : Surface.read side text = .ok surface) :
    surface.defect? side = none :=
  accepted_of_checked_eq_ok h

end Surface

namespace Project

/-- A settings document that is accepted is read back from its texts. -/
theorem read_eq
    {project : Project} {text : String} (haccepted : project.settings.defect? = none)
    (htext : text ∈ project.toJson.texts) :
    Project.read text = .ok project := by
  rw [Project.read, project.fitsIn_toJson.read?_of_mem_texts (by decide) htext, Option.bind_some,
    ofJson?_toJson]
  exact checked_of_accepted haccepted

theorem accepted_of_read_eq_ok
    {text : String} {project : Project} (h : Project.read text = .ok project) :
    project.settings.defect? = none := by
  have haccepted := accepted_of_checked_eq_ok h
  exact haccepted

end Project

/-- Every accepted surface is read back from its documents on its side, whichever types call their
package a namespace, and every settings document with accepted settings from its texts.  Whatever
is read has been accepted. -/
theorem documents_round_trip :
    (∀ (side : Side) (surface : Surface), surface.defect? side = none →
        surface.Writes surface.toJson ∧
          ∀ json, surface.Writes json → ∀ text ∈ json.texts,
            Surface.read side text = .ok surface) ∧
      (∀ project : Project, project.settings.defect? = none →
        ∀ text ∈ project.toJson.texts, Project.read text = .ok project) ∧
      (∀ (side : Side) (text : String) (surface : Surface),
        Surface.read side text = .ok surface → surface.defect? side = none) ∧
      ∀ (text : String) (project : Project),
        Project.read text = .ok project → project.settings.defect? = none :=
  ⟨fun _ surface haccepted =>
      ⟨surface.writes_toJson, fun _ hwrites _ htext => hwrites.read_eq haccepted htext⟩,
    fun _ haccepted _ htext => Project.read_eq haccepted htext,
    fun _ _ _ hread => Surface.accepted_of_read_eq_ok hread,
    fun _ _ hread => Project.accepted_of_read_eq_ok hread⟩

/-- A surface with every part of a document: a nested type, a member of every kind, and
justifications, one of them empty. -/
def recordedSurface : Surface :=
  { library := "widgets"
    version := some "4.8.1"
    types :=
      [ { TypeDecl.named .target .classType "A.B.Outer+Inner" with
          baseType := some "System.Object"
          contracts := ["System.IDisposable"]
          fields := [Member.field "count" "int"]
          properties := [Member.property "Size" "int"]
          methods := [Member.method "add" ["int", "A.B.Item"] "void"]
          constructors := [Member.constructor "Inner" []]
          declaredEquivalent := some ⟨"a.b", "Outer.Inner"⟩
          acknowledged := { contracts := some "" } },
        { TypeDecl.named .target .structType "A.B.Item" with withoutReference := true } ] }

/-- A settings document with an empty table of platform types and a library. -/
def recordedProject : Project :=
  { settings :=
      { mappings := [⟨"a.b", "A.B", some ""⟩]
        overrides := [⟨"a.b.One", "A.B.Uno", none⟩]
        platformTypes := [] }
    libraries := [⟨"core", "core.ref.json", "core.target.json"⟩] }

theorem recordedSurface_accepted :
    recordedSurface.defect? .target = none := by
  rw [Surface.defect?_eq_none_iff]
  decide

theorem recordedProject_accepted :
    recordedProject.settings.defect? = none := by
  rw [Settings.defect?_eq_none_iff]
  decide

/-- The recorded surface with namespaces in place of packages. -/
def recordedSurfaceRespelled : Json :=
  .object
    [ ("library", .string "widgets"),
      ("version", .string "4.8.1"),
      ("types",
        .array
          (recordedSurface.types.map fun decl =>
            decl.toJson.respelled "package" "namespace")) ]

theorem writes_recordedSurfaceRespelled :
    recordedSurface.Writes recordedSurfaceRespelled :=
  ⟨_, List.forall₂_map_right_iff.mpr (List.forall₂_same.mpr fun _ _ => .inr rfl), rfl⟩

theorem documents_round_trip_recorded :
    Surface.read .target recordedSurface.write = .ok recordedSurface ∧
      Surface.read .target recordedSurfaceRespelled.pretty = .ok recordedSurface ∧
      Project.read recordedProject.write = .ok recordedProject := by
  obtain ⟨hsurfaces, hprojects, _⟩ := documents_round_trip
  obtain ⟨hwrites, hread⟩ := hsurfaces .target recordedSurface recordedSurface_accepted
  exact
    ⟨hread _ hwrites _ List.mem_cons_self,
      hread _ writes_recordedSurfaceRespelled _ (List.mem_cons_of_mem _ List.mem_cons_self),
      hprojects recordedProject recordedProject_accepted _ List.mem_cons_self⟩

end Counterpart
