import Counterpart.Declaration.Basic
import Counterpart.Settings
import Counterpart.Text.Blank
import Std.Data.HashSet.Lemmas

/-!
# Validation of documents

The conditions on surfaces and settings that a reader checks, each with the defect that is
reported.  The first offender in the order of a document is blamed, and of its defects the
first in the order of the checks.
-/

namespace Counterpart

/-- The largest number of types of a surface. -/
def typeLimit : Nat := 200000

/-- The largest number of members of a type. -/
def memberLimit : Nat := 50000

/-- The largest number of bytes of a document. -/
def byteLimit : Nat := 536870912

/-- A defect of a document. -/
inductive Defect
  | emptyFullName
  | packageMismatch (fullName package expected : String)
  | simpleNameMismatch (fullName simpleName : String)
  | duplicateType (fullName : String)
  | tooManyTypes (count : Nat)
  | tooManyMembers (fullName : String)
  | duplicateOverride (reference : String)
  | emptyMappingPrefix (target : String)
  | documentTooLarge (bytes : Nat)
  deriving DecidableEq

def Defect.message : Defect → String
  | emptyFullName => "Type with an empty full name"
  | packageMismatch fullName package expected =>
    s!"Type '{fullName}' declares package '{package}', but its full name implies '{expected}'"
  | simpleNameMismatch fullName simpleName =>
    s!"Type '{fullName}' declares simple name '{simpleName}', which does not end its full name"
  | duplicateType fullName => s!"Duplicate type '{fullName}'"
  | tooManyTypes count => s!"Too many types: {count} exceeds maximum of {typeLimit}"
  | tooManyMembers fullName =>
    s!"Type '{fullName}' has too many members: exceeds maximum of {memberLimit}"
  | duplicateOverride reference => s!"More than one override for reference type '{reference}'"
  | emptyMappingPrefix target => s!"Namespace mapping to '{target}' has an empty reference prefix"
  | documentTooLarge bytes =>
    s!"Input file too large: {bytes} bytes exceeds maximum of {byteLimit}"

/-- The first name that occurs for the second time in a list, given the names before it. -/
def firstRepeated? (seen : Std.HashSet String) : List String → Option String
  | [] => none
  | name :: rest =>
    if seen.contains name then some name else firstRepeated? (seen.insert name) rest

theorem firstRepeated?_eq_none_iff
    {seen : Std.HashSet String} {names : List String} :
    firstRepeated? seen names = none ↔ names.Nodup ∧ ∀ name ∈ names, name ∉ seen := by
  induction names generalizing seen with
  | nil =>
      simp [firstRepeated?]
  | cons name rest ih =>
      rw [firstRepeated?, List.nodup_cons, List.forall_mem_cons]
      by_cases hseen : name ∈ seen
      · simp [hseen]
      · rw [if_neg (by simpa using hseen), ih]
        simp only [Std.HashSet.mem_insert, beq_iff_eq, not_or]
        constructor
        · rintro ⟨hnodup, hrest⟩
          exact ⟨⟨fun hmem => (hrest name hmem).1 rfl, hnodup⟩, hseen,
            fun other hmem => (hrest other hmem).2⟩
        · rintro ⟨⟨hmem, hnodup⟩, _, hrest⟩
          exact ⟨hnodup, fun other h => ⟨(ne_of_mem_of_not_mem h hmem).symm, hrest other h⟩⟩

namespace TypeDecl

/-- The first defect of a type on its side. -/
def defect? (side : Side) (decl : TypeDecl) : Option Defect :=
  let expected := packagePart decl.fullName side
  if Text.isBlank decl.fullName then some .emptyFullName
  else if decl.package ≠ expected then
    some (.packageMismatch decl.fullName decl.package expected)
  else if decl.simpleName = "" || (Text.beforeEnd? decl.simpleName decl.fullName).isNone then
    some (.simpleNameMismatch decl.fullName decl.simpleName)
  else if memberLimit < decl.members.length then some (.tooManyMembers decl.fullName)
  else none

end TypeDecl

namespace Surface

/-- The first defect in a list of types, given the full names before it. -/
def firstDefect? (side : Side) (seen : Std.HashSet String) : List TypeDecl → Option Defect
  | [] => none
  | decl :: rest =>
    match decl.defect? side with
    | some defect => some defect
    | none =>
      if seen.contains decl.fullName then some (.duplicateType decl.fullName)
      else firstDefect? side (seen.insert decl.fullName) rest

/-- The defect reported of a surface: too many types, else that of its first offender. -/
def defect? (side : Side) (surface : Surface) : Option Defect :=
  if typeLimit < surface.types.length then some (.tooManyTypes surface.types.length)
  else firstDefect? side {} surface.types

theorem firstDefect?_eq_none_iff
    {side : Side} {seen : Std.HashSet String} {types : List TypeDecl} :
    firstDefect? side seen types = none ↔
      (∀ decl ∈ types, decl.defect? side = none) ∧
        (types.map TypeDecl.fullName).Nodup ∧ ∀ decl ∈ types, decl.fullName ∉ seen := by
  induction types generalizing seen with
  | nil =>
      simp [firstDefect?]
  | cons decl rest ih =>
      rw [firstDefect?, List.map_cons, List.nodup_cons, List.forall_mem_cons, List.forall_mem_cons]
      cases hdefect : decl.defect? side with
      | some defect =>
          simp
      | none =>
          by_cases hseen : decl.fullName ∈ seen
          · simp [hseen]
          · dsimp only
            rw [if_neg (by simpa using hseen), ih]
            simp only [Std.HashSet.mem_insert, beq_iff_eq, not_or, List.mem_map, not_exists,
              not_and]
            constructor
            · rintro ⟨hrest, hnodup, hnew⟩
              have hapart : ∀ other ∈ rest, ¬ other.fullName = decl.fullName :=
                fun other hmem heq => (hnew other hmem).1 heq.symm
              exact ⟨⟨trivial, hrest⟩, ⟨hapart, hnodup⟩, hseen,
                fun other hmem => (hnew other hmem).2⟩
            · rintro ⟨⟨_, hrest⟩, ⟨hmem, hnodup⟩, _, hnew⟩
              exact ⟨hrest, hnodup, fun other h => ⟨fun heq => hmem other h heq.symm, hnew other h⟩⟩

/-- A surface is accepted if it has not too many types, each of them is, and their full names are
distinct. -/
theorem defect?_eq_none_iff
    {side : Side} {surface : Surface} :
    surface.defect? side = none ↔
      surface.types.length ≤ typeLimit ∧ (∀ decl ∈ surface.types, decl.defect? side = none) ∧
        (surface.types.map TypeDecl.fullName).Nodup := by
  rw [defect?, ← Nat.not_lt]
  by_cases hlimit : typeLimit < surface.types.length
  · simp [hlimit]
  · simp [hlimit, firstDefect?_eq_none_iff]

end Surface

namespace Settings

/-- The defect reported of settings: a mapping from nothing, else a repeated override. -/
def defect? (settings : Settings) : Option Defect :=
  match settings.mappings.find? (fun mapping => Text.isBlank mapping.referencePrefix) with
  | some mapping => some (.emptyMappingPrefix mapping.targetPrefix)
  | none =>
    (firstRepeated? {} (settings.overrides.map Override.reference)).map .duplicateOverride

/-- Settings are accepted if no mapping starts from nothing and no reference type is overridden
twice. -/
theorem defect?_eq_none_iff
    {settings : Settings} :
    settings.defect? = none ↔
      (∀ mapping ∈ settings.mappings, Text.isBlank mapping.referencePrefix = false) ∧
        (settings.overrides.map Override.reference).Nodup := by
  unfold defect?
  cases hblank : settings.mappings.find? fun mapping => Text.isBlank mapping.referencePrefix with
  | some mapping =>
      have hmem := List.mem_of_find?_eq_some hblank
      have hcondition := List.find?_some hblank
      simp only [reduceCtorEq, false_iff, not_and]
      exact fun hall => absurd (hall mapping hmem) (by simp [hcondition])
  | none =>
      have hall : ∀ mapping ∈ settings.mappings, Text.isBlank mapping.referencePrefix = false := by
        simpa using hblank
      simpa [firstRepeated?_eq_none_iff] using fun _ => hall

end Settings

/-- The defect of a document by its size. -/
def sizeDefect? (bytes : Nat) : Option Defect :=
  if byteLimit < bytes then some (.documentTooLarge bytes) else none

end Counterpart
