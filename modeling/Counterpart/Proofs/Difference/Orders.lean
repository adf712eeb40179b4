import Counterpart.Proofs.Difference.Greedy
import Mathlib.Data.List.Perm.Basic

/-!
# Greedy pairings of lists in another order

A greedy pairing is maximal: nothing that it leaves over on one side matches anything that it leaves
over on the other.  Conversely every maximal pairing of two lists is the greedy one for some order
of the lists.  So what does not depend on the order is what all maximal pairings have in common.

* `exists_orders_iff`: the pairings that some order gives are the maximal ones.
* `IsMaximal.exists_rival_left`, `IsMaximal.exists_rival_right`: why an element is left over that
  matches another one.
* `IsMaximal.leftOnly_perm`, `IsMaximal.rightOnly_perm`: maximal pairings leave the same over where
  every element has at most one counterpart.
-/

namespace Counterpart
namespace GreedyPairing

variable {α β : Type}

/-- A pairing that divides two lists, in whatever order, into pairs that match and a rest in which
nothing does. -/
structure IsMaximal
    (meets : α → β → Bool) (left : List α) (right : List β) (pairing : GreedyPairing α β) :
    Prop where
  left : (pairing.pairs.map Prod.fst ++ pairing.leftOnly).Perm left
  right : (pairing.pairs.map Prod.snd ++ pairing.rightOnly).Perm right
  agrees : ∀ pair ∈ pairing.pairs, meets pair.1 pair.2 = true
  apart : ∀ a ∈ pairing.leftOnly, ∀ b ∈ pairing.rightOnly, meets a b = false

variable {meets : α → β → Bool} {left left' : List α} {right right' : List β}
  {pairing : GreedyPairing α β}

theorem isMaximal_greedyPairing
    (meets : α → β → Bool) (left : List α) (right : List β) :
    (greedyPairing meets left right).IsMaximal meets left right where
  left := perm_left meets left right
  right := perm_right meets left right
  agrees _ := meets_of_mem_pairs
  apart _ ha _ hb := not_meets_of_mem_leftOnly ha hb

theorem IsMaximal.of_perm
    (h : pairing.IsMaximal meets left right)
    (hleft : left.Perm left') (hright : right.Perm right') :
    pairing.IsMaximal meets left' right' :=
  ⟨h.left.trans hleft, h.right.trans hright, h.agrees, h.apart⟩

/-- Elements that match nothing are all left over. -/
theorem greedyPairing_of_apart
    (apart : ∀ a ∈ left, ∀ b ∈ right, meets a b = false) :
    greedyPairing meets left right = ⟨[], left, right⟩ := by
  induction left with
  | nil =>
      rfl
  | cons a left ih =>
      have hfind : right.find? (meets a) = none :=
        List.find?_eq_none.mpr fun b hb => by simp [apart a (List.mem_cons_self ..) b hb]
      rw [greedyPairing_cons_of_none hfind,
        ih fun other hother => apart other (List.mem_cons_of_mem a hother)]

/-- Listing the pairs first, in their order, gives back the pairing. -/
theorem greedyPairing_append
    {pairs : List (α × β)} {leftOnly : List α} {rightOnly : List β}
    (agrees : ∀ pair ∈ pairs, meets pair.1 pair.2 = true)
    (apart : ∀ a ∈ leftOnly, ∀ b ∈ rightOnly, meets a b = false) :
    greedyPairing meets (pairs.map Prod.fst ++ leftOnly) (pairs.map Prod.snd ++ rightOnly) =
      ⟨pairs, leftOnly, rightOnly⟩ := by
  induction pairs with
  | nil =>
      exact greedyPairing_of_apart apart
  | cons pair pairs ih =>
      obtain ⟨a, b⟩ := pair
      have hmeets : meets a b = true := agrees (a, b) (List.mem_cons_self ..)
      have hfind : (b :: (pairs.map Prod.snd ++ rightOnly)).find? (meets a) = some b :=
        List.find?_cons_of_pos hmeets
      rw [List.map_cons, List.map_cons, List.cons_append, List.cons_append,
        greedyPairing_cons_of_some hfind, List.eraseP_cons_of_pos hmeets,
        ih fun other hother => agrees other (List.mem_cons_of_mem _ hother)]

/-- The pairings that greedy pairing gives in some order of two lists are the maximal ones. -/
theorem exists_orders_iff :
    (∃ left' right', left'.Perm left ∧ right'.Perm right ∧
        greedyPairing meets left' right' = pairing) ↔
      pairing.IsMaximal meets left right := by
  constructor
  · rintro ⟨left', right', hleft, hright, rfl⟩
    exact (isMaximal_greedyPairing meets left' right').of_perm hleft hright
  · intro h
    exact ⟨_, _, h.left, h.right, greedyPairing_append h.agrees h.apart⟩

/-- A pairing with its sides exchanged. -/
def swap (pairing : GreedyPairing α β) : GreedyPairing β α :=
  { pairs := pairing.pairs.map Prod.swap
    leftOnly := pairing.rightOnly
    rightOnly := pairing.leftOnly }

theorem IsMaximal.swap
    (h : pairing.IsMaximal meets left right) :
    pairing.swap.IsMaximal (fun b a => meets a b) right left where
  left := by
    simpa [GreedyPairing.swap, Function.comp_def] using h.right
  right := by
    simpa [GreedyPairing.swap, Function.comp_def] using h.left
  agrees pair hpair := by
    obtain ⟨other, hother, rfl⟩ := List.mem_map.mp hpair
    exact h.agrees other hother
  apart b hb a ha := h.apart a ha b hb

section Rivals

variable [DecidableEq α] [DecidableEq β]

/-- An element that is left over is listed more often than one that it matches, unless that one is
paired with another element. -/
theorem IsMaximal.exists_rival_left
    (h : pairing.IsMaximal meets left right) {a : α} {b : β} (hmeets : meets a b = true)
    (ha : a ∈ pairing.leftOnly) :
    right.count b < left.count a ∨ ∃ a', a' ≠ a ∧ (a', b) ∈ pairing.pairs := by
  by_cases hrival : ∃ a', a' ≠ a ∧ (a', b) ∈ pairing.pairs
  · exact Or.inr hrival
  · left
    have hspared : b ∉ pairing.rightOnly := fun hb =>
      Bool.noConfusion ((h.apart a ha b hb).symm.trans hmeets)
    have honly : ∀ pair ∈ pairing.pairs, pair.2 = b → pair.1 = a := by
      rintro ⟨a', b'⟩ hpair rfl
      exact by_contra fun hne => hrival ⟨a', hne, hpair⟩
    have hpaired : (pairing.pairs.map Prod.snd).count b ≤ (pairing.pairs.map Prod.fst).count a := by
      rw [List.count, List.countP_map, List.count, List.countP_map]
      exact List.countP_mono_left fun pair hpair => by simpa using honly pair hpair
    have hleft := h.left.count_eq a
    have hright := h.right.count_eq b
    rw [List.count_append] at hleft hright
    rw [List.count_eq_zero.mpr hspared] at hright
    have honce := List.count_pos_iff.mpr ha
    omega

theorem IsMaximal.exists_rival_right
    (h : pairing.IsMaximal meets left right) {a : α} {b : β} (hmeets : meets a b = true)
    (hb : b ∈ pairing.rightOnly) :
    left.count a < right.count b ∨ ∃ b', b' ≠ b ∧ (a, b') ∈ pairing.pairs := by
  refine (h.swap.exists_rival_left hmeets hb).imp_right ?_
  rintro ⟨b', hne, hpair⟩
  obtain ⟨⟨_, _⟩, hother, hsame⟩ := List.mem_map.mp hpair
  obtain ⟨rfl, rfl⟩ := Prod.mk.inj hsame
  exact ⟨_, hne, hother⟩

end Rivals

section OneToOne

/-- Every element of either list matches at most one element of the other, however often these
are listed. -/
structure OneToOne (meets : α → β → Bool) (left : List α) (right : List β) : Prop where
  right_eq :
    ∀ a ∈ left, ∀ b ∈ right, ∀ b' ∈ right, meets a b = true → meets a b' = true → b = b'
  left_eq :
    ∀ a ∈ left, ∀ a' ∈ left, ∀ b ∈ right, meets a b = true → meets a' b = true → a = a'

theorem OneToOne.swap
    (h : OneToOne meets left right) :
    OneToOne (fun b a => meets a b) right left where
  right_eq b hb a ha a' ha' := h.left_eq a ha a' ha' b hb
  left_eq b hb b' hb' a ha := h.right_eq a ha b hb b' hb'

variable [DecidableEq α] [DecidableEq β]

/-- Two elements that match each other only are paired equally often. -/
theorem IsMaximal.count_pairs_eq
    (oneToOne : OneToOne meets left right) (h : pairing.IsMaximal meets left right)
    {a : α} {b : β} (ha : a ∈ left) (hb : b ∈ right) (hmeets : meets a b = true) :
    (pairing.pairs.map Prod.fst).count a = (pairing.pairs.map Prod.snd).count b := by
  rw [List.count, List.countP_map, List.count, List.countP_map]
  refine List.countP_congr fun pair hpair => ?_
  have hfst : pair.1 ∈ left :=
    h.left.subset (List.mem_append_left _ (List.mem_map_of_mem hpair))
  have hsnd : pair.2 ∈ right :=
    h.right.subset (List.mem_append_left _ (List.mem_map_of_mem hpair))
  have hpaired := h.agrees pair hpair
  simp only [Function.comp_apply, beq_iff_eq]
  constructor
  · rintro rfl
    exact oneToOne.right_eq _ hfst _ hsnd b hb hpaired hmeets
  · rintro rfl
    exact oneToOne.left_eq _ hfst a ha _ hsnd hpaired hmeets

/-- How often an element is left over is decided by how often its counterpart is listed. -/
theorem IsMaximal.count_leftOnly_of_meets
    (oneToOne : OneToOne meets left right) (h : pairing.IsMaximal meets left right)
    {a : α} {b : β} (ha : a ∈ left) (hb : b ∈ right) (hmeets : meets a b = true) :
    pairing.leftOnly.count a = left.count a - right.count b := by
  have hpaired := h.count_pairs_eq oneToOne ha hb hmeets
  have hleft := h.left.count_eq a
  have hright := h.right.count_eq b
  have honce : pairing.leftOnly.count a = 0 ∨ pairing.rightOnly.count b = 0 := by
    rw [List.count_eq_zero, List.count_eq_zero, ← not_and_or]
    rintro ⟨hleftOnly, hrightOnly⟩
    rw [h.apart a hleftOnly b hrightOnly] at hmeets
    exact Bool.noConfusion hmeets
  rw [List.count_append] at hleft hright
  omega

omit [DecidableEq β] in
/-- An element that matches nothing is left over as often as it is listed. -/
theorem IsMaximal.count_leftOnly_of_not_meets
    (h : pairing.IsMaximal meets left right)
    {a : α} (alone : ∀ b ∈ right, meets a b = false) :
    pairing.leftOnly.count a = left.count a := by
  have hpaired : (pairing.pairs.map Prod.fst).count a = 0 := by
    rw [List.count_eq_zero]
    intro hmem
    obtain ⟨pair, hpair, rfl⟩ := List.mem_map.mp hmem
    have hsnd : pair.2 ∈ right :=
      h.right.subset (List.mem_append_left _ (List.mem_map_of_mem hpair))
    have hagrees := h.agrees pair hpair
    rw [alone _ hsnd] at hagrees
    exact Bool.noConfusion hagrees
  have hleft := h.left.count_eq a
  rw [List.count_append] at hleft
  omega

/-- Where every element has at most one counterpart, all maximal pairings leave the same over. -/
theorem IsMaximal.leftOnly_perm
    {other : GreedyPairing α β} (oneToOne : OneToOne meets left right)
    (h : pairing.IsMaximal meets left right) (hother : other.IsMaximal meets left right) :
    pairing.leftOnly.Perm other.leftOnly := by
  refine List.perm_iff_count.mpr fun a => ?_
  by_cases ha : a ∈ left
  · by_cases hmeets : ∃ b ∈ right, meets a b = true
    · obtain ⟨b, hb, hab⟩ := hmeets
      rw [h.count_leftOnly_of_meets oneToOne ha hb hab,
        hother.count_leftOnly_of_meets oneToOne ha hb hab]
    · have alone : ∀ b ∈ right, meets a b = false := by
        simpa using hmeets
      rw [h.count_leftOnly_of_not_meets alone, hother.count_leftOnly_of_not_meets alone]
  · have hnever {p : GreedyPairing α β} (hp : p.IsMaximal meets left right) : a ∉ p.leftOnly :=
      fun hmem => ha (hp.left.subset (List.mem_append_right _ hmem))
    rw [List.count_eq_zero.mpr (hnever h), List.count_eq_zero.mpr (hnever hother)]

theorem IsMaximal.rightOnly_perm
    {other : GreedyPairing α β} (oneToOne : OneToOne meets left right)
    (h : pairing.IsMaximal meets left right) (hother : other.IsMaximal meets left right) :
    pairing.rightOnly.Perm other.rightOnly :=
  h.swap.leftOnly_perm oneToOne.swap hother.swap

end OneToOne

end GreedyPairing

end Counterpart
