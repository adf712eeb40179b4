import Counterpart.Correspondence.Expected
import Counterpart.Proofs.Text.Cuts

/-!
# Qualified names

A full name is put together from a package and a name below it.  Reading it back finds the two
parts again as long as the package has no nesting separator and the name no dot in front of its
first separator.

* `packagePart_qualified`, `localName_named_qualified`: the two parts are found again.
* `IsSimple.ofText`: a name of one level is its own path.
* `IsTopLevel.exists_qualified`: a name of plain segments has a package and a name of one level.
-/

namespace Counterpart
namespace Naming

/-- A name below a package, which may be empty. -/
def qualified (package name : String) : String :=
  if package = "" then name else package ++ "." ++ name

/-- A name of one level. -/
structure IsSimple (name : String) : Prop where
  nonempty : name ≠ ""
  undotted : '.' ∉ name.toList
  unnested : ∀ side : Side, side.separator ∉ name.toList
  unmarked : arityMark ∉ name.toList

/-- A full name of dotted segments without nesting and arity. -/
structure IsTopLevel (fullName : String) : Prop where
  segments : ∀ segment ∈ Text.pieces '.' fullName, segment ≠ ""
  unnested : ∀ side : Side, side.separator ∉ fullName.toList
  unmarked : arityMark ∉ fullName.toList

section Qualified

variable {side : Side} {package name : String}
  (unnested : side.separator ∉ package.toList)
  (undotted : '.' ∉ (Text.before side.separator name).toList)
include unnested undotted

theorem packagePart_qualified :
    packagePart (qualified package name) side = package := by
  unfold packagePart qualified
  by_cases hpackage : package = ""
  · rw [if_pos hpackage, Text.beforeLast_of_not_mem undotted, hpackage]
  · have hfront : side.separator ∉ (package ++ ".").toList := by
      cases side <;> simpa [Side.separator] using unnested
    rw [if_neg hpackage, Text.before_append hfront]
    exact Text.beforeLast_append undotted package

theorem localName_named_qualified
    (kind : TypeDecl.Kind) :
    (TypeDecl.named side kind (qualified package name)).localName = name := by
  rw [TypeDecl.localName, TypeDecl.package_named, packagePart_qualified unnested undotted,
    TypeDecl.fullName_named, qualified]
  by_cases hpackage : package = ""
  · rw [if_pos hpackage, if_pos hpackage]
  · rw [if_neg hpackage, if_neg hpackage, Text.afterStart?_append]
    rfl

end Qualified

namespace IsSimple

variable {name : String} (h : IsSimple name)
include h

theorem undotted_before
    (side : Side) :
    '.' ∉ (Text.before side.separator name).toList := by
  rw [Text.before_of_not_mem (h.unnested side)]
  exact h.undotted

/-- A name of one level is its own path on either side. -/
theorem ofText
    (side : Side) :
    Path.ofText side name = ⟨[], name⟩ := by
  have hlevels : Path.levels side name = [name] := by
    have herase : eraseArity name = name :=
      Text.before_of_not_mem h.unmarked
    simp [Path.levels, Text.pieces_of_not_mem (h.unnested side), herase, h.nonempty]
  simp [Path.ofText, hlevels]

/-- What a marker letter is put in front of keeps to one level. -/
theorem marked :
    IsSimple (String.singleton interfaceLetter ++ name) where
  nonempty := by
    simp
  undotted := by
    simpa [interfaceLetter] using h.undotted
  unnested side := by
    have hname := h.unnested side
    cases side <;> simpa [interfaceLetter, Side.separator] using hname
  unmarked := by
    simpa [interfaceLetter, arityMark] using h.unmarked

theorem dropImplementationSuffix
    (kind : TypeDecl.Kind) :
    IsSimple (dropImplementationSuffix name kind) := by
  unfold Naming.dropImplementationSuffix
  split
  · cases hstem : implementationStem? name with
    | none =>
        exact h
    | some stem =>
        obtain ⟨hbefore, hnonempty⟩ := Option.filter_eq_some_iff.mp hstem
        obtain rfl := Text.beforeEnd?_eq_some_iff.mp hbefore
        have hsubset {c : Char} (hc : c ∉ (stem ++ implementationEnding).toList) :
            c ∉ stem.toList := by
          rw [String.toList_append, List.mem_append, not_or] at hc
          exact hc.1
        exact
          { nonempty := by simpa using hnonempty
            undotted := hsubset h.undotted
            unnested := fun side => hsubset (h.unnested side)
            unmarked := hsubset h.unmarked }
  · exact h

end IsSimple

theorem sameIgnoringCase_comm
    (left right : String) :
    Text.sameIgnoringCase left right = Text.sameIgnoringCase right left :=
  Bool.beq_comm

theorem sameIgnoringCase_refl
    (text : String) :
    Text.sameIgnoringCase text text = true := by
  simp [Text.sameIgnoringCase]

/-- Names below packages that agree up to case agree up to case. -/
theorem sameIgnoringCase_qualified
    {package other : String} (h : Text.sameIgnoringCase package other = true) (name : String) :
    Text.sameIgnoringCase (qualified package name) (qualified other name) = true := by
  have hcases : package.toList.map Char.toLower = other.toList.map Char.toLower := by
    simpa [Text.sameIgnoringCase] using h
  have hempty : package = "" ↔ other = "" := by
    rw [← String.toList_eq_nil_iff, ← String.toList_eq_nil_iff, ← List.map_eq_nil_iff, hcases,
      List.map_eq_nil_iff]
  by_cases hother : other = ""
  · simp [qualified, hempty.mpr hother, hother, Text.sameIgnoringCase]
  · simp [qualified, hempty.not.mpr hother, hother, Text.sameIgnoringCase, hcases]

/-- A name of plain segments consists of a package and a name of one level. -/
theorem IsTopLevel.exists_qualified
    {fullName : String} (h : IsTopLevel fullName) :
    ∃ package name,
      fullName = qualified package name ∧
        (∀ side : Side, side.separator ∉ package.toList) ∧ IsSimple name := by
  by_cases hdot : '.' ∈ fullName.toList
  · obtain ⟨package, name, rfl, hundotted⟩ := Text.exists_eq_append_of_mem hdot
    have hsegments := h.segments
    rw [Text.pieces_append, Text.pieces_of_not_mem hundotted] at hsegments
    have hpackage : package ≠ "" := by
      rintro rfl
      exact hsegments "" (by simp [Text.pieces]) rfl
    refine ⟨package, name, ?_, ?_, ?_, hundotted, ?_, ?_⟩
    · rw [qualified, if_neg hpackage]
      rfl
    · intro side hmem
      exact h.unnested side (by simp [hmem])
    · exact hsegments name (by simp)
    · intro side hmem
      exact h.unnested side (by simp [hmem])
    · intro hmem
      exact h.unmarked (by simp [hmem])
  · refine ⟨"", fullName, by simp [qualified], by simp, ?_, hdot, h.unnested, h.unmarked⟩
    have hsegments := h.segments
    rw [Text.pieces_of_not_mem hdot] at hsegments
    exact hsegments fullName (by simp)

end Naming
end Counterpart
