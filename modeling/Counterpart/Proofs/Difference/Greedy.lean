import Counterpart.Difference.Greedy
import Mathlib.Data.List.Perm.Basic

/-!
# What a greedy pairing leaves over

A greedy pairing only divides its two lists: the elements of either are those of the pairs and those
left over, each as often as before.  Nothing is left over in vain, since two elements that match
are never both left.

* `perm_left`, `perm_right`: nothing is lost or repeated.
* `not_meets_of_mem_leftOnly`: what is left over does not match.
-/

namespace Counterpart
namespace GreedyPairing

variable {α β : Type} {meets : α → β → Bool}

theorem greedyPairing_cons_of_some
    {a : α} {left : List α} {right : List β} {b : β}
    (h : right.find? (meets a) = some b) :
    greedyPairing meets (a :: left) right =
      { greedyPairing meets left (right.eraseP (meets a)) with
        pairs := (a, b) :: (greedyPairing meets left (right.eraseP (meets a))).pairs } := by
  rw [greedyPairing, h]

theorem greedyPairing_cons_of_none
    {a : α} {left : List α} {right : List β}
    (h : right.find? (meets a) = none) :
    greedyPairing meets (a :: left) right =
      { greedyPairing meets left right with
        leftOnly := a :: (greedyPairing meets left right).leftOnly } := by
  rw [greedyPairing, h]

/-- The element taken stands first once it is taken out. -/
theorem perm_cons_eraseP
    {test : β → Bool} {l : List β} {b : β}
    (h : l.find? test = some b) :
    l.Perm (b :: l.eraseP test) := by
  obtain ⟨hb, before, after, rfl, hbefore⟩ := List.find?_eq_some_iff_append.mp h
  have hskip : ∀ c ∈ before, ¬ test c = true := by
    simpa using hbefore
  rw [List.eraseP_append_right _ hskip, List.eraseP_cons_of_pos hb]
  exact List.perm_middle

theorem perm_left
    (meets : α → β → Bool) (left : List α) (right : List β) :
    ((greedyPairing meets left right).pairs.map Prod.fst ++
      (greedyPairing meets left right).leftOnly).Perm left := by
  induction left generalizing right with
  | nil =>
      exact List.Perm.refl []
  | cons a left ih =>
      cases hfind : right.find? (meets a) with
      | some b =>
          rw [greedyPairing_cons_of_some hfind]
          exact (ih _).cons a
      | none =>
          rw [greedyPairing_cons_of_none hfind]
          exact List.perm_middle.trans ((ih right).cons a)

theorem perm_right
    (meets : α → β → Bool) (left : List α) (right : List β) :
    ((greedyPairing meets left right).pairs.map Prod.snd ++
      (greedyPairing meets left right).rightOnly).Perm right := by
  induction left generalizing right with
  | nil =>
      exact List.Perm.refl right
  | cons a left ih =>
      cases hfind : right.find? (meets a) with
      | some b =>
          rw [greedyPairing_cons_of_some hfind]
          exact ((ih _).cons b).trans (perm_cons_eraseP hfind).symm
      | none =>
          rw [greedyPairing_cons_of_none hfind]
          exact ih right

variable {left : List α} {right : List β}

theorem mem_of_mem_leftOnly
    {a : α} (h : a ∈ (greedyPairing meets left right).leftOnly) :
    a ∈ left :=
  (perm_left meets left right).subset (List.mem_append_right _ h)

theorem mem_of_mem_rightOnly
    {b : β} (h : b ∈ (greedyPairing meets left right).rightOnly) :
    b ∈ right :=
  (perm_right meets left right).subset (List.mem_append_right _ h)

theorem mem_of_mem_pairs
    {pair : α × β} (h : pair ∈ (greedyPairing meets left right).pairs) :
    pair.1 ∈ left ∧ pair.2 ∈ right :=
  ⟨(perm_left meets left right).subset (List.mem_append_left _ (List.mem_map_of_mem h)),
    (perm_right meets left right).subset (List.mem_append_left _ (List.mem_map_of_mem h))⟩

theorem exists_mem_pairs_of_mem_left
    {a : α} (h : a ∈ left)
    (htaken : a ∉ (greedyPairing meets left right).leftOnly) :
    ∃ b, (a, b) ∈ (greedyPairing meets left right).pairs := by
  rw [← (perm_left meets left right).mem_iff, List.mem_append] at h
  obtain ⟨⟨_, b⟩, hpair, rfl⟩ := List.mem_map.mp (h.resolve_right htaken)
  exact ⟨b, hpair⟩

theorem exists_mem_pairs_of_mem_right
    {b : β} (h : b ∈ right)
    (htaken : b ∉ (greedyPairing meets left right).rightOnly) :
    ∃ a, (a, b) ∈ (greedyPairing meets left right).pairs := by
  rw [← (perm_right meets left right).mem_iff, List.mem_append] at h
  obtain ⟨⟨a, _⟩, hpair, rfl⟩ := List.mem_map.mp (h.resolve_right htaken)
  exact ⟨a, hpair⟩

/-- Of two elements that match, at most one is left over. -/
theorem not_meets_of_mem_leftOnly
    {a : α} {b : β}
    (ha : a ∈ (greedyPairing meets left right).leftOnly)
    (hb : b ∈ (greedyPairing meets left right).rightOnly) :
    meets a b = false := by
  induction left generalizing right with
  | nil =>
      simp [greedyPairing] at ha
  | cons first left ih =>
      cases hfind : right.find? (meets first) with
      | some taken =>
          rw [greedyPairing_cons_of_some hfind] at ha hb
          exact ih ha hb
      | none =>
          rw [greedyPairing_cons_of_none hfind] at ha hb
          rcases List.mem_cons.mp ha with rfl | ha
          · -- It was left over because nothing on the right matched it at its turn.
            simpa using List.find?_eq_none.mp hfind b (mem_of_mem_rightOnly hb)
          · exact ih ha hb

end GreedyPairing
end Counterpart
