import Counterpart.Proofs.Difference.Greedy
import Mathlib.Data.List.FinRange
import Mathlib.Data.List.Nodup
import Mathlib.Data.PEquiv

/-!
# Greedy pairings by position

A list may hold an element several times, so what a greedy pairing relates one to one are not the
elements of its lists but their positions.  The pairing of the positions is greedy itself: pairing
commutes with a map of either side, and a list is the image of its positions.

* `positions_map`: the positions are paired as the elements are.
* `maximalPairing_pairing`: no pair of positions can be added.
* `pairs_perm_paired`, `leftOnly_perm_unpaired`, `rightOnly_perm_unpaired`: what a greedy pairing
  pairs and leaves over can be read off the positions.
* `length_eq_left`, `length_eq_right`: either list has a partner for every pair.
* `pairing_cast`: lists that match alike are paired alike.
-/

namespace Counterpart

section Positions

variable {α β γ : Type}

/-- The elements of a list at the positions without a partner. -/
def unpaired (l : List α) (partner : Fin l.length → Option γ) : List α :=
  ((List.finRange l.length).filter fun i => (partner i).isNone).map l.get

/-- The elements of two lists at the positions that are partners. -/
def paired
    (left : List α) (right : List β) (partner : Fin left.length → Option (Fin right.length)) :
    List (α × β) :=
  (List.finRange left.length).filterMap fun i =>
    (partner i).map fun j => (left.get i, right.get j)

/-- Distinct positions that are just those without a partner give the elements without one. -/
theorem map_get_perm_unpaired
    {l : List α} {partner : Fin l.length → Option γ} {free : List (Fin l.length)}
    (distinct : free.Nodup)
    (mem_iff : ∀ i, i ∈ free ↔ partner i = none) :
    (free.map l.get).Perm (unpaired l partner) := by
  refine List.Perm.map l.get ?_
  rw [List.perm_ext_iff_of_nodup distinct ((List.nodup_finRange l.length).filter _)]
  intro i
  simp [mem_iff]

/-- A one-to-one pairing of positions at which two lists match, with no such pair to be added. -/
structure MaximalPairing
    (meets : α → β → Bool) (left : List α) (right : List β)
    (pairing : Fin left.length ≃. Fin right.length) :
    Prop where
  agrees : ∀ i j, pairing i = some j → meets (left.get i) (right.get j) = true
  maximal :
    ∀ i j, pairing i = none → pairing.symm j = none → meets (left.get i) (right.get j) = false

theorem lookup_eq_some_iff_mem
    [DecidableEq α] {pairs : List (α × β)}
    (distinct : (pairs.map Prod.fst).Nodup)
    {a : α} {b : β} :
    pairs.lookup a = some b ↔ (a, b) ∈ pairs := by
  rw [List.lookup_eq_some_iff]
  constructor
  · rintro ⟨before, after, rfl, _⟩
    simp
  · intro h
    obtain ⟨before, after, rfl⟩ := List.append_of_mem h
    refine ⟨before, after, rfl, ?_⟩
    intro pair hpair
    rw [List.map_append, List.nodup_append] at distinct
    have hne : pair.1 ≠ a := distinct.2.2 _ (List.mem_map_of_mem hpair) _ (by simp)
    simpa using hne.symm

variable [DecidableEq α] [DecidableEq β]

/-- Pairs in which nothing occurs twice on either side, as a partial one-to-one map. -/
def pairingOf
    (pairs : List (α × β))
    (left : (pairs.map Prod.fst).Nodup) (right : (pairs.map Prod.snd).Nodup) :
    α ≃. β where
  toFun a := pairs.lookup a
  invFun b := (pairs.map Prod.swap).lookup b
  inv a b := by
    have hright : ((pairs.map Prod.swap).map Prod.fst).Nodup := by
      rw [List.map_map]
      exact right
    simp [lookup_eq_some_iff_mem left, lookup_eq_some_iff_mem hright]

theorem pairingOf_eq_some_iff
    {pairs : List (α × β)}
    (left : (pairs.map Prod.fst).Nodup) (right : (pairs.map Prod.snd).Nodup)
    {a : α} {b : β} :
    pairingOf pairs left right a = some b ↔ (a, b) ∈ pairs :=
  lookup_eq_some_iff_mem left

end Positions

namespace GreedyPairing

section Map

variable {α β γ δ : Type}

/-- The greedy pairing with its elements renamed. -/
def map (f : α → γ) (g : β → δ) (pairing : GreedyPairing α β) : GreedyPairing γ δ :=
  { pairs := pairing.pairs.map (Prod.map f g)
    leftOnly := pairing.leftOnly.map f
    rightOnly := pairing.rightOnly.map g }

/-- The elements of two lists are paired as whatever they stand for. -/
theorem greedyPairing_map
    (meets : γ → δ → Bool) (f : α → γ) (g : β → δ) (left : List α) (right : List β) :
    greedyPairing meets (left.map f) (right.map g) =
      (greedyPairing (fun a b => meets (f a) (g b)) left right).map f g := by
  induction left generalizing right with
  | nil =>
      rfl
  | cons a left ih =>
      have hfound :
          (right.map g).find? (meets (f a)) =
            (right.find? fun b => meets (f a) (g b)).map g :=
        List.find?_map
      cases hfind : right.find? fun b => meets (f a) (g b) with
      | some b =>
          rw [hfind, Option.map_some] at hfound
          have hothers :
              (right.map g).eraseP (meets (f a)) =
                (right.eraseP fun b => meets (f a) (g b)).map g :=
            List.eraseP_map
          rw [List.map_cons, greedyPairing_cons_of_some hfound,
            greedyPairing_cons_of_some hfind, hothers, ih]
          rfl
      | none =>
          rw [hfind, Option.map_none] at hfound
          rw [List.map_cons, greedyPairing_cons_of_none hfound,
            greedyPairing_cons_of_none hfind, ih]
          rfl

end Map

section Positions

variable {α β : Type} (meets : α → β → Bool) (left : List α) (right : List β)

/-- The greedy pairing of the positions of two lists. -/
def positions : GreedyPairing (Fin left.length) (Fin right.length) :=
  greedyPairing (fun i j => meets (left.get i) (right.get j))
    (List.finRange left.length) (List.finRange right.length)

theorem positions_map :
    (positions meets left right).map left.get right.get = greedyPairing meets left right := by
  rw [positions, ← greedyPairing_map]
  exact congrArg₂ (greedyPairing meets) (List.map_getElem_finRange left)
    (List.map_getElem_finRange right)

theorem nodup_left_positions :
    ((positions meets left right).pairs.map Prod.fst ++
      (positions meets left right).leftOnly).Nodup :=
  (perm_left _ _ _).nodup_iff.mpr (List.nodup_finRange left.length)

theorem nodup_right_positions :
    ((positions meets left right).pairs.map Prod.snd ++
      (positions meets left right).rightOnly).Nodup :=
  (perm_right _ _ _).nodup_iff.mpr (List.nodup_finRange right.length)

/-- The one-to-one pairing of the positions of two lists. -/
def pairing : Fin left.length ≃. Fin right.length :=
  pairingOf (positions meets left right).pairs
    (List.nodup_append.mp (nodup_left_positions meets left right)).1
    (List.nodup_append.mp (nodup_right_positions meets left right)).1

variable {meets left right}

theorem pairing_eq_some_iff
    {i : Fin left.length} {j : Fin right.length} :
    pairing meets left right i = some j ↔ (i, j) ∈ (positions meets left right).pairs :=
  pairingOf_eq_some_iff _ _

theorem pairing_eq_none_iff
    {i : Fin left.length} :
    pairing meets left right i = none ↔ i ∈ (positions meets left right).leftOnly := by
  have hdisjoint := (List.nodup_append.mp (nodup_left_positions meets left right)).2.2
  rw [Option.eq_none_iff_forall_ne_some]
  constructor
  · intro hnone
    by_contra hpaired
    obtain ⟨j, hpair⟩ := exists_mem_pairs_of_mem_left (List.mem_finRange i) hpaired
    exact hnone j (pairing_eq_some_iff.mpr hpair)
  · intro hleft j hsome
    have hpair := List.mem_map_of_mem (f := Prod.fst) (pairing_eq_some_iff.mp hsome)
    exact hdisjoint i hpair i hleft rfl

theorem symm_pairing_eq_none_iff
    {j : Fin right.length} :
    (pairing meets left right).symm j = none ↔ j ∈ (positions meets left right).rightOnly := by
  have hdisjoint := (List.nodup_append.mp (nodup_right_positions meets left right)).2.2
  simp only [Option.eq_none_iff_forall_ne_some, ne_eq, PEquiv.eq_some_iff]
  constructor
  · intro hnone
    by_contra hpaired
    obtain ⟨i, hpair⟩ := exists_mem_pairs_of_mem_right (List.mem_finRange j) hpaired
    exact hnone i (pairing_eq_some_iff.mpr hpair)
  · intro hright i hsome
    have hpair := List.mem_map_of_mem (f := Prod.snd) (pairing_eq_some_iff.mp hsome)
    exact hdisjoint j hpair j hright rfl

variable (meets left right)

/-- The pairing of positions is maximal. -/
theorem maximalPairing_pairing :
    MaximalPairing meets left right (pairing meets left right) where
  agrees i j h := by
    have hmeets := meets_of_mem_pairs (pairing_eq_some_iff.mp h)
    exact hmeets
  maximal i j hi hj := by
    have hrefused :=
      not_meets_of_mem_leftOnly (pairing_eq_none_iff.mp hi) (symm_pairing_eq_none_iff.mp hj)
    exact hrefused

theorem leftOnly_perm_unpaired :
    (greedyPairing meets left right).leftOnly.Perm
      (unpaired left (pairing meets left right)) := by
  have hdistinct := (List.nodup_append.mp (nodup_left_positions meets left right)).2.1
  rw [← positions_map]
  exact map_get_perm_unpaired hdistinct fun _ => pairing_eq_none_iff.symm

theorem rightOnly_perm_unpaired :
    (greedyPairing meets left right).rightOnly.Perm
      (unpaired right (pairing meets left right).symm) := by
  have hdistinct := (List.nodup_append.mp (nodup_right_positions meets left right)).2.1
  rw [← positions_map]
  exact map_get_perm_unpaired hdistinct fun _ => symm_pairing_eq_none_iff.symm

theorem pairs_perm_paired :
    (greedyPairing meets left right).pairs.Perm
      (paired left right (pairing meets left right)) := by
  have hpaired :
      paired left right (pairing meets left right) =
        ((List.finRange left.length).filterMap fun i =>
          (pairing meets left right i).map fun j => (i, j)).map
            (Prod.map left.get right.get) := by
    simp [paired, List.map_filterMap, Function.comp_def]
  rw [hpaired, ← positions_map]
  refine List.Perm.map _ ?_
  rw [List.perm_ext_iff_of_nodup]
  · rintro ⟨i, j⟩
    simp [← pairing_eq_some_iff]
  · exact (List.nodup_append.mp (nodup_left_positions meets left right)).1.of_map
  · refine (List.nodup_finRange left.length).filterMap ?_
    rintro i i' ⟨_, _⟩ h h'
    simp only [Option.mem_def, Option.map_eq_some_iff, Prod.mk.injEq] at h h'
    obtain ⟨_, _, rfl, _⟩ := h
    obtain ⟨_, _, rfl, _⟩ := h'
    rfl

theorem length_eq_left :
    left.length =
      (paired left right (pairing meets left right)).length +
        (unpaired left (pairing meets left right)).length := by
  have hlength := (perm_left meets left right).length_eq
  rw [List.length_append, List.length_map, (pairs_perm_paired meets left right).length_eq,
    (leftOnly_perm_unpaired meets left right).length_eq] at hlength
  exact hlength.symm

theorem length_eq_right :
    right.length =
      (paired left right (pairing meets left right)).length +
        (unpaired right (pairing meets left right).symm).length := by
  have hlength := (perm_right meets left right).length_eq
  rw [List.length_append, List.length_map, (pairs_perm_paired meets left right).length_eq,
    (rightOnly_perm_unpaired meets left right).length_eq] at hlength
  exact hlength.symm

end Positions

section Renamed

variable {α β : Type} {meets : α → β → Bool} {left left' : List α} {right right' : List β}
  (hleft : left.length = left'.length) (hright : right.length = right'.length)
  (same : ∀ i j,
    meets (left'.get (i.cast hleft)) (right'.get (j.cast hright)) =
      meets (left.get i) (right.get j))
include same

/-- The pairing of the positions depends on the elements only by which of them match. -/
theorem positions_cast :
    positions meets left' right' =
      (positions meets left right).map (Fin.cast hleft) (Fin.cast hright) := by
  have hfin {m n : ℕ} (h : m = n) :
      List.finRange n = (List.finRange m).map (Fin.cast h) := by
    subst h
    exact (List.map_id _).symm
  rw [positions, hfin hleft, hfin hright, greedyPairing_map]
  simp only [same]
  rfl

theorem pairing_cast
    (i : Fin left.length) :
    pairing meets left' right' (i.cast hleft) =
      (pairing meets left right i).map (Fin.cast hright) := by
  apply Option.ext
  intro j
  rw [pairing_eq_some_iff, positions_cast hleft hright same, Option.map_eq_some_iff]
  simp only [pairing_eq_some_iff, map, List.mem_map, Prod.exists, Prod.map_apply, Prod.mk.injEq]
  constructor
  · rintro ⟨i', j', hmem, hi, hj⟩
    obtain rfl : i' = i := Fin.cast_injective hleft hi
    exact ⟨j', hmem, hj⟩
  · rintro ⟨j', hmem, hj⟩
    exact ⟨i, j', hmem, rfl, hj⟩

end Renamed

end GreedyPairing
end Counterpart
