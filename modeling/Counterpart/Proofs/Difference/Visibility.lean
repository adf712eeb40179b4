import Counterpart.Difference.Structure

/-!
# Types that are not public

Two types can only be compared if both are public.  Whether a type is public is asked twice, when
types are selected and when their modifiers are compared, and the two answers are the same.

* `modifierDifference?_eq_error_iff`: which of two types stands in the way of a comparison.
* `exists_difference_eq_ok_iff`: a comparison that nothing stands in the way of.
-/

namespace Counterpart
namespace Scope

variable {reference target : TypeDecl}

theorem modifierDifference?_eq_error_iff
    {error : NotPublic} :
    modifierDifference? reference target = .error error ↔
      (reference.isPublic = false ∧ error = ⟨.reference, reference.fullName⟩) ∨
        (reference.isPublic = true ∧ target.isPublic = false ∧
          error = ⟨.target, target.fullName⟩) := by
  unfold modifierDifference? Modifier.agreeOnTypes TypeDecl.isPublic
  cases reference.modifiers.contains "public" with
  | false =>
      simp [eq_comm]
  | true =>
      cases target.modifiers.contains "public" with
      | false =>
          simp [eq_comm]
      | true =>
          simp only [Bool.not_true, Bool.false_eq_true, if_false]
          split <;> simp

/-- A difference that is found is made up of its parts. -/
theorem exists_modifiers_of_difference_eq_ok
    {scope : Scope} {difference : TypeDifference}
    (h : scope.difference reference target = .ok difference) :
    ∃ modifiers,
      modifierDifference? reference target = .ok modifiers ∧
        difference =
          { modifiers
            baseType := scope.baseTypeDifference? reference target
            contracts :=
              if target.acknowledged.contracts.isSome then none
              else scope.contractDifference? reference.contracts target.contracts
            members := scope.memberDifference reference target } := by
  unfold Scope.difference at h
  cases hmodifiers : modifierDifference? reference target with
  | error error =>
      rw [hmodifiers] at h
      cases h
  | ok modifiers =>
      rw [hmodifiers] at h
      cases h
      exact ⟨modifiers, rfl, rfl⟩

theorem exists_difference_eq_ok_iff
    (scope : Scope) :
    (∃ difference, scope.difference reference target = .ok difference) ↔
      reference.isPublic = true ∧ target.isPublic = true := by
  have hok :
      (∃ difference, scope.difference reference target = .ok difference) ↔
        ∀ error, modifierDifference? reference target ≠ .error error := by
    unfold difference
    cases modifierDifference? reference target <;> simp [Except.map]
  simp only [hok, ne_eq, modifierDifference?_eq_error_iff]
  cases reference.isPublic <;> cases target.isPublic <;> simp

end Scope
end Counterpart
