import Counterpart.Proofs.Correspondence.Lookup
import Counterpart.Proofs.Naming.TypeName

/-!
# Correspondence of written names

Two written types are the same if their array ranks agree and their element names correspond.
Type arguments do not count, but neither do array suffixes behind them, so a generic array is the
same as its element type and differs from every array written without arguments.

Names of two types of the scope are compared as these are declared: by the override of the
reference type, else by the declared equivalent of the target type, else by kinds and naming rules.
Names of one spelling however are taken for the same type before anything that is declared.

* `written_names_agree_iff`: how ranks, arguments and element names take part.
* `listed_names_agree_as_declared`: how types of the scope are compared by their names.
-/

namespace Counterpart
namespace Scope

theorem platformType?_eq_none_iff
    {scope : Scope} {name : String} :
    scope.platformType? name = none ↔
      ∀ entry ∈ scope.settings.platformTypes, entry.target ≠ name := by
  rw [platformType?, List.findRev?_eq_find?_reverse, List.find?_eq_none]
  simp

section Elements

open Naming.TypeName

variable {reference target : String} (hreference : IsElement reference) (htarget : IsElement target)
include hreference htarget

theorem namesAgree_of_isElement
    (scope : Scope) :
    scope.namesAgree reference target = scope.elementsAgree reference target := by
  simp [namesAgree, ofText_of_isElement hreference, ofText_of_isElement htarget]

/-- Written types are the same if their element names are and if as many array suffixes are counted
on either side; those behind type arguments are not counted. -/
theorem written_names_agree_iff
    (scope : Scope) (first second : Arguments) (firstRank secondRank : Nat) :
    scope.namesAgree (written reference first firstRank) (written target second secondRank) =
        true ↔
      first.countedRank firstRank = second.countedRank secondRank ∧
        scope.namesAgree reference target = true := by
  rw [namesAgree_of_isElement hreference htarget]
  simp [namesAgree, ofText_written hreference, ofText_written htarget]

end Elements

section GenericArrays

open Naming.TypeName

/-- Of two written names with two array suffixes each, one with arguments: the suffixes behind
them are not counted. -/
theorem written_names_agree_iff_box :
    unpopulated.namesAgree (written "a.Box" .absent 2) (written "A.Box" .absent 2) = true ∧
      unpopulated.namesAgree (written "a.Box" (.angled "a.Map<int[], long>[][]") 2)
          (written "A.Box" .absent 2) = false ∧
      unpopulated.namesAgree (written "a.Box" (.angled "a.Map<int[], long>[][]") 2)
          (written "A.Box" .absent 0) = true := by
  have hagree (first second : Arguments) (firstRank secondRank : Nat) :
      unpopulated.namesAgree (written "a.Box" first firstRank)
            (written "A.Box" second secondRank) = true ↔
        first.countedRank firstRank = second.countedRank secondRank ∧
          unpopulated.namesAgree "a.Box" "A.Box" = true :=
    written_names_agree_iff (by decide +kernel) (by decide +kernel) unpopulated first second
      firstRank secondRank
  have helements : unpopulated.namesAgree "a.Box" "A.Box" = true := by
    decide +kernel
  refine ⟨(hagree ..).mpr ⟨rfl, helements⟩, ?_, (hagree ..).mpr ⟨rfl, helements⟩⟩
  rw [Bool.eq_false_iff, Ne, hagree]
  exact fun h => absurd h.1 (by decide)

/-- A generic array differs from an array of the same rank, and is the same as its element type. -/
theorem generic_array_loses_rank :
    IsElement "a.Box" ∧
      IsElement "A.Box" ∧
      unpopulated.namesAgree "a.Box" "A.Box" = true ∧
      written "a.Box" (.angled "int") 1 = "a.Box<int>[]" ∧
      written "A.Box" .absent 1 = "A.Box[]" ∧
      unpopulated.namesAgree "a.Box<int>[]" "A.Box[]" = false ∧
      unpopulated.namesAgree "a.Box<int>[]" "A.Box" = true ∧
      written "A.Box" (.bracketed "System.Int32") 0 = "A.Box[[System.Int32]]" ∧
      unpopulated.namesAgree "a.Box<int>[]" "A.Box[[System.Int32]]" = true := by
  decide +kernel

end GenericArrays

section Listed

variable {scope : Scope} (distinct : scope.DistinctNames) {reference target : TypeDecl}
  (hreference : reference ∈ scope.reference) (htarget : target ∈ scope.target)
  (reference_element : Naming.TypeName.IsElement reference.fullName)
  (target_element : Naming.TypeName.IsElement target.fullName)
  (unlisted :
    ∀ entry ∈ scope.settings.platformTypes,
      entry.target ≠ (Naming.Path.ofText .target target.fullName).dotted)
include distinct hreference htarget reference_element target_element unlisted

/-- Types of the scope are the same by their names if these are spelled alike or if they correspond
as declared. -/
theorem namesAgree_of_listed :
    scope.namesAgree reference.fullName target.fullName =
      (decide (reference.fullName = target.fullName) || scope.typesAgree reference target) := by
  have hfirst : scope.reference? reference.fullName = some reference :=
    (reference?_eq_some_iff distinct).mpr ⟨hreference, rfl⟩
  have hsecond : scope.target? target.fullName = some target :=
    (target?_eq_some_iff distinct).mpr ⟨htarget, rfl⟩
  rw [namesAgree_of_isElement reference_element target_element, elementsAgree,
    platformType?_eq_none_iff.mpr unlisted, hfirst, hsecond]
  by_cases hsame : reference.fullName = target.fullName <;> simp [hsame]

end Listed

/-- The names of two types are compared as the types are declared. -/
structure ComparedAsDeclared (scope : Scope) (reference target : TypeDecl) : Prop where
  types :
    scope.namesAgree reference.fullName target.fullName = scope.typesAgree reference target
  /-- An override decides alone. -/
  overridden :
    ∀ entry, scope.override? reference.fullName = some entry →
      (scope.namesAgree reference.fullName target.fullName = true ↔
        entry.target = target.fullName)
  /-- So does a declared equivalent where there is no override. -/
  declared :
    scope.override? reference.fullName = none →
      ∀ equivalent, target.declaredEquivalent = some equivalent →
        (scope.namesAgree reference.fullName target.fullName = true ↔
          equivalent = ⟨reference.package, reference.referencePath.dotted⟩)
  /-- Else the kinds are compatible. -/
  kinds :
    scope.override? reference.fullName = none → target.declaredEquivalent = none →
      scope.namesAgree reference.fullName target.fullName = true →
        TypeDecl.Kind.compatible reference.kind target.kind = true

theorem comparedAsDeclared_of_types
    {scope : Scope} {reference target : TypeDecl}
    (types :
      scope.namesAgree reference.fullName target.fullName = scope.typesAgree reference target) :
    scope.ComparedAsDeclared reference target where
  types := types
  overridden entry hentry := by
    simp [types, typesAgree, hentry]
  declared hentry equivalent hequivalent := by
    have hdeclares :
        declares reference target = true ↔
          target.declaredEquivalent =
            some ⟨reference.package, reference.referencePath.dotted⟩ :=
      declares_iff
    rw [hequivalent, Option.some.injEq] at hdeclares
    simp [types, typesAgree, hentry, hequivalent, hdeclares]
  kinds hentry hequivalent hagree := by
    simp only [types, typesAgree, hentry, hequivalent, Option.isSome_none, Bool.false_eq_true,
      if_false] at hagree
    obtain ⟨rule, hfollows⟩ := rule?_isSome_iff.mp hagree
    simp only [follows, Bool.and_eq_true] at hfollows
    exact hfollows.1.1

/-- With distinct full names, two types of the scope that the table of platform types does not list
are compared as declared, unless their names are spelled alike: then they are the same. -/
theorem listed_names_agree_as_declared
    {scope : Scope} (distinct : scope.DistinctNames) {reference target : TypeDecl}
    (hreference : reference ∈ scope.reference) (htarget : target ∈ scope.target)
    (reference_element : Naming.TypeName.IsElement reference.fullName)
    (target_element : Naming.TypeName.IsElement target.fullName)
    (unlisted :
      ∀ entry ∈ scope.settings.platformTypes,
        entry.target ≠ (Naming.Path.ofText .target target.fullName).dotted) :
    (reference.fullName = target.fullName →
        scope.namesAgree reference.fullName target.fullName = true) ∧
      (reference.fullName ≠ target.fullName → scope.ComparedAsDeclared reference target) := by
  have hagree :=
    namesAgree_of_listed distinct hreference htarget reference_element target_element unlisted
  constructor
  · intro hsame
    rw [hagree, decide_eq_true hsame, Bool.true_or]
  · intro hdiffer
    apply comparedAsDeclared_of_types
    rw [hagree, decide_eq_false hdiffer, Bool.false_or]

section Homonyms

/-- Types of one spelling that do not correspond: there is an override of the first, the second
declares another equivalent, and the kinds of the third differ. -/
def homonyms : List (TypeDecl × TypeDecl) :=
  [(.named .reference .classType "a.One", .named .target .classType "a.One"),
    (.named .reference .classType "a.Two",
      { TypeDecl.named .target .classType "a.Two" with
          declaredEquivalent := some ⟨"b", "Two"⟩ }),
    (.named .reference .interfaceType "a.Three", .named .target .classType "a.Three")]

/-- The types of one spelling, with the target type that the override names. -/
def homonymous : Scope :=
  { settings := { overrides := [⟨"a.One", "A.Other", none⟩] }
    reference := homonyms.map Prod.fst
    target := .named .target .classType "A.Other" :: homonyms.map Prod.snd }

theorem distinctNames_homonymous :
    homonymous.DistinctNames :=
  ⟨by decide +kernel, by decide +kernel⟩

theorem listed_names_agree_as_declared_other :
    homonymous.ComparedAsDeclared (.named .reference .classType "a.One")
      (.named .target .classType "A.Other") :=
  (listed_names_agree_as_declared distinctNames_homonymous (by decide +kernel) (by decide +kernel)
    (by decide +kernel) (by decide +kernel) (by decide +kernel)).2 (by decide +kernel)

/-- Names of one spelling are taken for the same type although the override, the declared equivalent
or the kinds of the types say that they are not. -/
theorem homonyms_agree_against_declarations :
    homonymous.DistinctNames ∧
      ∀ pair ∈ homonyms,
        pair.1 ∈ homonymous.reference ∧
          pair.2 ∈ homonymous.target ∧
          Naming.TypeName.IsElement pair.1.fullName ∧
          Naming.TypeName.IsElement pair.2.fullName ∧
          (∀ entry ∈ homonymous.settings.platformTypes,
            entry.target ≠ (Naming.Path.ofText .target pair.2.fullName).dotted) ∧
          homonymous.namesAgree pair.1.fullName pair.2.fullName = true ∧
          homonymous.typesAgree pair.1 pair.2 = false :=
  ⟨distinctNames_homonymous, by decide +kernel⟩

end Homonyms

end Scope
end Counterpart
