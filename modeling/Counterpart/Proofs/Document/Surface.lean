import Counterpart.Document.Surface
import Counterpart.Proofs.Document.Entries

/-!
# Surfaces are read back from their documents

Members, types and surfaces are read back from what is written of them; the parts that are left out
are read as missing, empty or unset.  Of a member, the entries of its shape stand among the common
ones and are found again by their keys.  A type may call its package a namespace.

* `Member.ofJson?_toJson`, `TypeDecl.ofJson?_toJson`: members and types read back.
* `TypeDecl.ofJson?_respelled`: the other spelling of the package makes no difference.
* `Surface.ofJson?_eq_of_writes`: surfaces read back in every spelling.
-/

namespace Counterpart

namespace EquivalentName

theorem ofJson?_toJson
    (declared : EquivalentName) :
    ofJson? declared.toJson = some declared := by
  simp [ofJson?, toJson]

theorem fitsIn_toJson
    (declared : EquivalentName) :
    Json.FitsIn 1 declared.toJson := by
  simp [toJson]

theorem toJson_ne_null
    (declared : EquivalentName) :
    declared.toJson ≠ .null :=
  Json.noConfusion

end EquivalentName

namespace Acknowledged

theorem ofJson?_toJson
    (known : Acknowledged) :
    ofJson? known.toJson = some known := by
  simp [ofJson?, toJson]

theorem fitsIn_toJson
    (known : Acknowledged) :
    Json.FitsIn 1 known.toJson := by
  simp [toJson]

theorem isEmpty_iff
    {known : Acknowledged} :
    known.isEmpty = true ↔ known = {} := by
  obtain ⟨modifiers, baseType, contracts⟩ := known
  simp [isEmpty, and_assoc]

end Acknowledged

namespace Member

theorem Shape.ofEntries?_toEntries
    (shape : Member.Shape) :
    ofEntries? shape.toEntries = some shape := by
  cases shape <;> simp [ofEntries?, toEntries, Kind.ofLabel?_label]

theorem Shape.valuesFitIn_toEntries
    (shape : Member.Shape) :
    Json.ValuesFitIn 1 shape.toEntries := by
  cases shape <;> simp [toEntries]

theorem Shape.not_mem_commonKeys
    (shape : Member.Shape) :
    ∀ entry ∈ shape.toEntries, entry.1 ∉ commonKeys := by
  cases shape <;> simp [toEntries, commonKeys]

theorem Shape.given_toEntries
    {key : String} (h : key ∈ commonKeys) (shape : Member.Shape) :
    Json.given [key] shape.toEntries = [] := by
  refine List.filter_eq_nil_iff.mpr fun entry hentry hkey => ?_
  have hsame : entry.1 = key := by simpa using hkey
  exact shape.not_mem_commonKeys entry hentry (hsame ▸ h)

/-- The entries of the document of a member. -/
def toEntries (member : Member) : List (String × Json) :=
  [ ("name", .string member.name),
    ("modifiers", Json.ofTexts member.modifiers),
    ("is_static", .bool member.isStatic) ] ++
  member.shape.toEntries ++
  Json.textEntry "known_modifier_difference" member.acknowledgedModifiers

theorem toJson_eq
    (member : Member) :
    member.toJson = .object member.toEntries :=
  rfl

/-- The entries of a member under no common key are those of its shape. -/
theorem filter_not_commonKeys
    (member : Member) :
    member.toEntries.filter (fun entry => !commonKeys.contains entry.1) =
      member.shape.toEntries := by
  have hshape :
      member.shape.toEntries.filter (fun entry => !commonKeys.contains entry.1) =
        member.shape.toEntries :=
    List.filter_eq_self.mpr fun entry hentry => by
      simpa using member.shape.not_mem_commonKeys entry hentry
  have hknown :
      (Json.textEntry "known_modifier_difference" member.acknowledgedModifiers).filter
        (fun entry => !commonKeys.contains entry.1) = [] := by
    cases member.acknowledgedModifiers <;> rfl
  rw [toEntries, List.filter_append, List.filter_append, hshape, hknown, List.append_nil]
  rfl

theorem fitsIn_toJson
    (member : Member) :
    Json.FitsIn 2 member.toJson := by
  simp [toJson, member.shape.valuesFitIn_toEntries]

theorem ofJson?_toJson
    (member : Member) :
    ofJson? member.toJson = some member := by
  have hgiven (key : String) (h : key ∈ commonKeys) :
      Json.given [key] member.shape.toEntries = [] :=
    Shape.given_toEntries h member.shape
  have hname : Json.required? "name" Json.text? member.toEntries = some member.name := by
    simp [toEntries, hgiven "name" (by decide)]
  have hmodifiers : Json.texts? "modifiers" member.toEntries = some member.modifiers := by
    simp [toEntries, hgiven "modifiers" (by decide)]
  have hstatic :
      Json.default? "is_static" Json.bool? false member.toEntries = some member.isStatic := by
    simp [toEntries, hgiven "is_static" (by decide)]
  have hknown :
      Json.optional? "known_modifier_difference" Json.text? member.toEntries =
        some member.acknowledgedModifiers := by
    simp [toEntries, hgiven "known_modifier_difference" (by decide)]
  have hreadable : Json.entriesReadable member.shape.toEntries = true :=
    member.shape.valuesFitIn_toEntries.entriesReadable
  rw [ofJson?, toJson_eq, Json.bind_of_eq_some (Json.entries?_object _),
    Json.bind_of_eq_some hname, Json.bind_of_eq_some hmodifiers, Json.bind_of_eq_some hstatic,
    Json.bind_of_eq_some hknown, filter_not_commonKeys]
  exact (Json.bind_of_eq_some (if_pos hreadable) _).trans
    (Json.bind_of_eq_some (Shape.ofEntries?_toEntries _) _)

end Member

namespace TypeDecl

theorem fitsIn_toJson
    (decl : TypeDecl) :
    Json.FitsIn 4 decl.toJson := by
  simp [toJson, Member.fitsIn_toJson, (EquivalentName.fitsIn_toJson _).mono (show 1 ≤ 3 by decide),
    (Acknowledged.fitsIn_toJson _).mono (show 1 ≤ 3 by decide)]

theorem kind_ofJson?_label (kind : TypeDecl.Kind) :
    Kind.ofJson? (.string kind.label) = some kind :=
  Kind.ofLabel?_label kind

/-- The entries of the document of a type. -/
def toEntries (decl : TypeDecl) : List (String × Json) :=
  [ ("kind", .string decl.kind.label),
    ("package", .string decl.package),
    ("simple_name", .string decl.simpleName),
    ("full_name", .string decl.fullName),
    ("modifiers", Json.ofTexts decl.modifiers) ] ++
  Json.textEntry "base_type" decl.baseType ++
  Json.listEntry "implemented_contracts" .string decl.contracts ++
  Json.listEntry "fields" Member.toJson decl.fields ++
  Json.listEntry "properties" Member.toJson decl.properties ++
  Json.listEntry "methods" Member.toJson decl.methods ++
  Json.listEntry "constructors" Member.toJson decl.constructors ++
  (decl.declaredEquivalent.map fun declared => ("declared_equivalent", declared.toJson)).toList ++
  (if decl.acknowledged.isEmpty then [] else [("known_differences", decl.acknowledged.toJson)]) ++
  (if decl.withoutReference then [("no_reference_equivalent", .bool true)] else [])

theorem toJson_eq
    (decl : TypeDecl) :
    decl.toJson = .object decl.toEntries :=
  rfl

theorem ofJson?_toJson
    (decl : TypeDecl) :
    ofJson? decl.toJson = some decl := by
  have hkind : Json.required? "kind" Kind.ofJson? decl.toEntries = some decl.kind := by
    simp [toEntries, kind_ofJson?_label]
  have hpackage :
      Json.requiredAs? ["package", "namespace"] Json.text? decl.toEntries = some decl.package := by
    simp [toEntries]
  have hsimple : Json.required? "simple_name" Json.text? decl.toEntries = some decl.simpleName := by
    simp [toEntries]
  have hfull : Json.required? "full_name" Json.text? decl.toEntries = some decl.fullName := by
    simp [toEntries]
  have hmodifiers : Json.texts? "modifiers" decl.toEntries = some decl.modifiers := by
    simp [toEntries]
  have hbase : Json.optional? "base_type" Json.text? decl.toEntries = some decl.baseType := by
    simp [toEntries]
  have hcontracts : Json.texts? "implemented_contracts" decl.toEntries = some decl.contracts := by
    simp [toEntries]
  have hfields : members? "fields" decl.toEntries = some decl.fields := by
    simp [toEntries, members?, Json.orDefault?_listValue, Member.ofJson?_toJson]
  have hproperties : members? "properties" decl.toEntries = some decl.properties := by
    simp [toEntries, members?, Json.orDefault?_listValue, Member.ofJson?_toJson]
  have hmethods : members? "methods" decl.toEntries = some decl.methods := by
    simp [toEntries, members?, Json.orDefault?_listValue, Member.ofJson?_toJson]
  have hconstructors : members? "constructors" decl.toEntries = some decl.constructors := by
    simp [toEntries, members?, Json.orDefault?_listValue, Member.ofJson?_toJson]
  have hdeclared :
      Json.optional? "declared_equivalent" EquivalentName.ofJson? decl.toEntries =
        some decl.declaredEquivalent := by
    simp [toEntries, Json.orNull?_map EquivalentName.ofJson?_toJson EquivalentName.toJson_ne_null]
  have hacknowledged :
      Json.default? "known_differences" Acknowledged.ofJson? {} decl.toEntries =
        some decl.acknowledged := by
    by_cases hempty : decl.acknowledged.isEmpty = true
    · have hknown : ({} : Acknowledged) = decl.acknowledged :=
        (Acknowledged.isEmpty_iff.mp hempty).symm
      simp [toEntries, hempty, hknown]
    · simp [toEntries, hempty, Acknowledged.ofJson?_toJson]
  have hwithout :
      Json.default? "no_reference_equivalent" Json.bool? false decl.toEntries =
        some decl.withoutReference := by
    cases hflag : decl.withoutReference <;> simp [toEntries, hflag]
  rw [ofJson?, toJson_eq, Json.bind_of_eq_some (Json.record?_object _ _ _),
    Json.bind_of_eq_some hkind, Json.bind_of_eq_some hpackage, Json.bind_of_eq_some hsimple,
    Json.bind_of_eq_some hfull, Json.bind_of_eq_some hmodifiers, Json.bind_of_eq_some hbase,
    Json.bind_of_eq_some hcontracts, Json.bind_of_eq_some hfields,
    Json.bind_of_eq_some hproperties, Json.bind_of_eq_some hmethods,
    Json.bind_of_eq_some hconstructors, Json.bind_of_eq_some hdeclared,
    Json.bind_of_eq_some hacknowledged, Json.bind_of_eq_some hwithout]
  rfl

/-- A type that calls its package a namespace is read alike. -/
theorem ofJson?_respelled
    (json : Json) :
    ofJson? (json.respelled "package" "namespace") = ofJson? json := by
  cases json with
  | object entries =>
      rw [ofJson?, ofJson?, Json.respelled, Json.bind_of_eq_some (Json.record?_object _ _ _),
        Json.bind_of_eq_some (Json.record?_object _ _ _)]
      simp (disch := decide) only [members?, Json.required?_eq, Json.requiredAs?_eq,
        Json.optional?_eq, Json.default?_eq, Json.texts?_eq, Json.value?_given_respell]
  | _ =>
      rfl

/-- The documents of a type: as it is written, or with its package called a namespace. -/
def Writes (decl : TypeDecl) (json : Json) : Prop :=
  json = decl.toJson ∨ json = decl.toJson.respelled "package" "namespace"

variable {decl : TypeDecl} {json : Json}

theorem Writes.ofJson?_eq
    (h : decl.Writes json) :
    ofJson? json = some decl := by
  rcases h with rfl | rfl
  · exact decl.ofJson?_toJson
  · rw [ofJson?_respelled, ofJson?_toJson]

theorem Writes.fitsIn
    (h : decl.Writes json) :
    Json.FitsIn 4 json := by
  rcases h with rfl | rfl
  · exact decl.fitsIn_toJson
  · exact decl.fitsIn_toJson.respelled "package" "namespace"

end TypeDecl

namespace Surface

/-- The documents of a surface: as it is written, where every type may call its package a
namespace. -/
def Writes (surface : Surface) (json : Json) : Prop :=
  ∃ types,
    List.Forall₂ TypeDecl.Writes surface.types types ∧
      json =
        .object
          ([("library", .string surface.library)] ++ Json.textEntry "version" surface.version ++
            [("types", .array types)])

theorem writes_toJson
    (surface : Surface) :
    surface.Writes surface.toJson :=
  ⟨_, List.forall₂_map_right_iff.mpr (List.forall₂_same.mpr fun _ _ => .inl rfl), rfl⟩

variable {surface : Surface} {json : Json}

theorem Writes.ofJson?_eq
    (h : surface.Writes json) :
    ofJson? json = some surface := by
  obtain ⟨types, htypes, rfl⟩ := h
  have hlist : Json.list? TypeDecl.ofJson? (.array types) = some surface.types :=
    Json.list?_of_forall₂ (htypes.imp fun _ _ => TypeDecl.Writes.ofJson?_eq)
  simp [ofJson?, hlist]

theorem Writes.fitsIn
    (h : surface.Writes json) :
    Json.FitsIn 6 json := by
  obtain ⟨types, htypes, rfl⟩ := h
  have harray : Json.FitsIn 5 (.array types) :=
    .array_of_forall₂ (htypes.imp fun _ _ => TypeDecl.Writes.fitsIn)
  simpa using harray

end Surface

end Counterpart
