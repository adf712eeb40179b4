import Counterpart.Proofs.Matching.Order
import Mathlib.Data.List.Perm.Basic
import Mathlib.Logic.Equiv.Fin.Basic

/-!
# A matching divides the types of its scope

Every position of either list of types belongs to exactly one entry of the matching: to a pair or
to a left-over type.  Nothing is assumed of the names of the types or of the overrides; types
that are equal in all their parts count as often as they are listed.
-/

namespace Counterpart

/-- Two lists whose images together are a permutation of a third divide its positions. -/
theorem exists_positions_of_perm
    {α β γ : Type} [DecidableEq α]
    {f : β → α} {g : γ → α} {left : List β} {right : List γ} {whole : List α}
    (h : (left.map f ++ right.map g).Perm whole) :
    ∃ position : Fin left.length ⊕ Fin right.length ≃ Fin whole.length,
      (∀ i, f left[i] = whole[position (.inl i)]) ∧
        ∀ i, g right[i] = whole[position (.inr i)] := by
  have hlength : left.length + right.length = (left.map f ++ right.map g).length := by
    simp
  refine ⟨(finSumFinEquiv.trans (finCongr hlength)).trans
    (Equiv.ofBijective h.idxBij ⟨h.idxBij_injective, h.idxBij_surjective⟩), ?_, ?_⟩
  · intro i
    have hleft :
        (left.map f ++ right.map g)[(Fin.cast hlength (Fin.castAdd right.length i)).val] =
          f left[i] := by
      simp
    exact ((h.getElem_idxBij_eq_getElem _).trans hleft).symm
  · intro i
    have hright :
        (left.map f ++ right.map g)[(Fin.cast hlength (Fin.natAdd left.length i)).val] =
          g right[i] := by
      simp
    exact ((h.getElem_idxBij_eq_getElem _).trans hright).symm

/-- Every position of the reference types belongs to exactly one pair or left-over reference
type, and every position of the target types to exactly one pair or left-over target type. -/
theorem matching_partitions_positions
    (scope : Scope) :
    (∃ position :
        Fin scope.matching.matched.length ⊕ Fin scope.matching.unmatchedReference.length ≃
          Fin scope.reference.length,
      (∀ i, scope.matching.matched[i].reference = scope.reference[position (.inl i)]) ∧
        ∀ i, scope.matching.unmatchedReference[i].decl = scope.reference[position (.inr i)]) ∧
    (∃ position :
        Fin scope.matching.matched.length ⊕ Fin scope.matching.unmatchedTarget.length ≃
          Fin scope.target.length,
      (∀ i, scope.matching.matched[i].target = scope.target[position (.inl i)]) ∧
        ∀ i, scope.matching.unmatchedTarget[i].decl = scope.target[position (.inr i)]) := by
  constructor
  · apply exists_positions_of_perm (f := Pairing.reference) (g := Unmatched.decl)
    simpa [Scope.matching, Pool.references, Pool.unmatchedReference, Function.comp_def]
      using scope.reached_settled.references_perm
  · apply exists_positions_of_perm (f := Pairing.target) (g := Unmatched.decl)
    simpa [Scope.matching, Pool.targets, Pool.unmatchedTarget, Function.comp_def]
      using scope.reached_settled.targets_perm

end Counterpart
