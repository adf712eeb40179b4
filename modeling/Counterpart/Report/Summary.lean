/-!
# Summaries

The counts of a report.  Summaries of several libraries are added up component by component.
-/

namespace Counterpart

/-- The counts of a report. -/
structure Summary where
  referenceTypes : Nat := 0
  targetTypes : Nat := 0
  matched : Nat := 0
  matchedWithDifferences : Nat := 0
  unmatchedReference : Nat := 0
  unmatchedTarget : Nat := 0
  ambiguous : Nat := 0
  referenceOnlyMembers : Nat := 0
  targetOnlyMembers : Nat := 0
  declaredTypeMismatches : Nat := 0
  skippedNonPublic : Nat := 0
  excludedTarget : Nat := 0
  warnings : Nat := 0
  deriving DecidableEq

namespace Summary

/-- Whether there is anything left to reconcile. -/
def diverges (summary : Summary) : Bool :=
  summary.matchedWithDifferences != 0 || summary.unmatchedReference != 0 ||
    summary.unmatchedTarget != 0

def add (a b : Summary) : Summary :=
  { referenceTypes := a.referenceTypes + b.referenceTypes
    targetTypes := a.targetTypes + b.targetTypes
    matched := a.matched + b.matched
    matchedWithDifferences := a.matchedWithDifferences + b.matchedWithDifferences
    unmatchedReference := a.unmatchedReference + b.unmatchedReference
    unmatchedTarget := a.unmatchedTarget + b.unmatchedTarget
    ambiguous := a.ambiguous + b.ambiguous
    referenceOnlyMembers := a.referenceOnlyMembers + b.referenceOnlyMembers
    targetOnlyMembers := a.targetOnlyMembers + b.targetOnlyMembers
    declaredTypeMismatches := a.declaredTypeMismatches + b.declaredTypeMismatches
    skippedNonPublic := a.skippedNonPublic + b.skippedNonPublic
    excludedTarget := a.excludedTarget + b.excludedTarget
    warnings := a.warnings + b.warnings }

instance : Add Summary := ⟨add⟩

def sum (summaries : List Summary) : Summary :=
  summaries.foldr add {}

theorem diverges_add (a b : Summary) :
    (add a b).diverges = (a.diverges || b.diverges) := by
  rw [Bool.eq_iff_iff]
  simp only [diverges, add, Bool.or_eq_true, bne_iff_ne, ne_eq]
  omega

theorem diverges_sum (summaries : List Summary) :
    (sum summaries).diverges = summaries.any diverges := by
  induction summaries with
  | nil =>
      rfl
  | cons a rest ih =>
      simpa [sum, diverges_add] using congrArg (a.diverges || ·) ih

end Summary

end Counterpart
