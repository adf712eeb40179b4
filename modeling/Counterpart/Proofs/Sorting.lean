import Mathlib.Data.List.Forall2
import Mathlib.Order.Compare

/-!
# Lists sorted by a comparison

All lists of a report are sorted by a comparison of their entries.

* `pairwise_mergeSort`: a comparison that orders its arguments sorts any list.
* `mergeSort_eq_of_perm`, `mergeSort_eq_iff_perm`: if it tells all elements apart, sorted lists show
  how often each occurs, and not the order they come in.
* `filter_mergeSort_of_alike`, `mergeSort_filter`: what compares alike keeps its order, and sorting
  commutes with taking elements out.
* `forall₂_mergeSort`: entries that compare alike are sorted alike.
-/

namespace Counterpart

variable {α : Type} (cmp : α → α → Ordering) [Std.TransCmp cmp]

theorem isLE_total
    (a b : α) :
    ((cmp a b).isLE || (cmp b a).isLE) = true := by
  have hswap : cmp b a = (cmp a b).swap := Std.OrientedCmp.eq_swap
  rw [hswap]
  cases cmp a b <;> rfl

theorem pairwise_mergeSort
    (l : List α) :
    (l.mergeSort fun a b => (cmp a b).isLE).Pairwise fun a b => (cmp a b).isLE = true :=
  List.pairwise_mergeSort (fun _ _ _ => Std.TransCmp.isLE_trans) (isLE_total cmp) l

/-- If no two elements of a list compare alike, its order does not matter. -/
theorem mergeSort_eq_of_perm_of_distinct
    {l l' : List α}
    (distinct : ∀ a ∈ l, ∀ b ∈ l, cmp a b = .eq → a = b) (h : l'.Perm l) :
    (l'.mergeSort fun a b => (cmp a b).isLE) = l.mergeSort fun a b => (cmp a b).isLE := by
  refine List.Perm.eq_of_pairwise ?_ (pairwise_mergeSort cmp l') (pairwise_mergeSort cmp l) ?_
  · intro a b ha hb hab hba
    exact distinct a (h.mem_iff.mp (List.mem_mergeSort.mp ha)) b (List.mem_mergeSort.mp hb)
      (Std.OrientedCmp.isLE_antisymm hab hba)
  · exact (List.mergeSort_perm l' _).trans (h.trans (List.mergeSort_perm l _).symm)

theorem mergeSort_eq_of_perm
    [Std.LawfulEqCmp cmp] {l l' : List α}
    (h : l'.Perm l) :
    (l'.mergeSort fun a b => (cmp a b).isLE) = l.mergeSort fun a b => (cmp a b).isLE :=
  mergeSort_eq_of_perm_of_distinct cmp (fun _ _ _ _ => Std.LawfulEqCmp.eq_of_compare) h

theorem mergeSort_eq_iff_perm
    [Std.LawfulEqCmp cmp] {l l' : List α} :
    (l'.mergeSort fun a b => (cmp a b).isLE) = (l.mergeSort fun a b => (cmp a b).isLE) ↔
      l'.Perm l := by
  constructor
  · intro h
    have hperm := (List.Perm.of_eq h).trans (List.mergeSort_perm l _)
    exact (List.mergeSort_perm l' _).symm.trans hperm
  · exact mergeSort_eq_of_perm cmp

section Stable

/-- What a test takes out of a list keeps its order if it compares alike. -/
theorem filter_mergeSort_of_alike
    {l : List α} {test : α → Bool}
    (alike : ∀ a ∈ l, ∀ b ∈ l, test a = true → test b = true → (cmp a b).isLE = true) :
    (l.mergeSort fun a b => (cmp a b).isLE).filter test = l.filter test := by
  have hordered : (l.filter test).Pairwise fun a b => (cmp a b).isLE = true := by
    refine List.pairwise_of_forall_mem_list fun a ha b hb => ?_
    obtain ⟨ha, hta⟩ := List.mem_filter.mp ha
    obtain ⟨hb, htb⟩ := List.mem_filter.mp hb
    exact alike a ha b hb hta htb
  have hsublist :
      (l.filter test).Sublist ((l.mergeSort fun a b => (cmp a b).isLE).filter test) := by
    have hwhole :=
      List.sublist_mergeSort (fun _ _ _ => Std.TransCmp.isLE_trans) (isLE_total cmp) hordered
        List.filter_sublist
    simpa [List.filter_filter] using hwhole.filter test
  exact (hsublist.eq_of_length ((List.mergeSort_perm l _).filter test).length_eq.symm).symm

variable {l l' : List α}

/-- The first element of a sorted list comes before all those that compare alike to any of them. -/
theorem isLE_of_filter_cons_eq
    {a b : α}
    (h : (b :: l').Pairwise fun a b => (cmp a b).isLE = true)
    (alike :
      (a :: l).filter (fun c => cmp a c == .eq) = (b :: l').filter fun c => cmp a c == .eq) :
    (cmp b a).isLE = true := by
  have hself : cmp a a = .eq := Std.ReflCmp.compare_self
  have ha : a ∈ (b :: l').filter fun c => cmp a c == .eq := by
    rw [← alike]
    simp [hself]
  rcases List.mem_cons.mp (List.mem_filter.mp ha).1 with rfl | ha
  · rw [hself]
    rfl
  · exact List.rel_of_pairwise_cons h ha

/-- A sorted list is known by what compares alike in it, in its order. -/
theorem eq_of_pairwise_of_filter_eq
    (h : l.Pairwise fun a b => (cmp a b).isLE = true)
    (h' : l'.Pairwise fun a b => (cmp a b).isLE = true)
    (alike : ∀ a, l.filter (fun b => cmp a b == .eq) = l'.filter fun b => cmp a b == .eq) :
    l = l' := by
  have hself (a : α) : cmp a a = .eq := Std.ReflCmp.compare_self
  induction l generalizing l' with
  | nil =>
      cases l' with
      | nil =>
          rfl
      | cons b rest' =>
          simpa [hself] using alike b
  | cons a rest ih =>
      cases l' with
      | nil =>
          simpa [hself] using alike a
      | cons b rest' =>
          have hab : cmp a b = .eq :=
            Std.OrientedCmp.isLE_antisymm (isLE_of_filter_cons_eq cmp h (alike b).symm)
              (isLE_of_filter_cons_eq cmp h' (alike a))
          obtain rfl : a = b := by
            have hfirst := alike a
            simp only [List.filter_cons, hab, hself, beq_self_eq_true, if_true,
              List.cons.injEq] at hfirst
            exact hfirst.1
          refine congrArg (a :: ·) (ih h.of_cons h'.of_cons fun c => ?_)
          have hrest := alike c
          simp only [List.filter_cons] at hrest
          split at hrest
          · exact (List.cons.inj hrest).2
          · exact hrest

/-- Sorting commutes with taking elements out. -/
theorem mergeSort_filter
    (l : List α) (test : α → Bool) :
    ((l.filter test).mergeSort fun a b => (cmp a b).isLE) =
      (l.mergeSort fun a b => (cmp a b).isLE).filter test := by
  refine eq_of_pairwise_of_filter_eq cmp (pairwise_mergeSort cmp _)
    ((pairwise_mergeSort cmp _).filter _) fun a => ?_
  have hkept (l : List α) :
      (l.mergeSort fun a b => (cmp a b).isLE).filter (fun b => cmp a b == .eq) =
        l.filter fun b => cmp a b == .eq := by
    refine filter_mergeSort_of_alike cmp fun b _ c _ hb hc => ?_
    rw [beq_iff_eq] at hb hc
    rw [Std.TransCmp.congr_left (Std.OrientedCmp.eq_symm hb), hc]
    rfl
  rw [hkept, List.filter_comm, ← hkept l, List.filter_comm]

end Stable

/-- Lists that are related entry by entry are still so once they are sorted, if related entries
compare alike. -/
theorem forall₂_mergeSort
    {β : Type} {R : α → β → Prop} {le : α → α → Bool} {le' : β → β → Bool}
    (alike : ∀ a a' b b', R a b → R a' b' → le a a' = le' b b')
    {l : List α} {l' : List β} (h : List.Forall₂ R l l') :
    List.Forall₂ R (l.mergeSort le) (l'.mergeSort le') := by
  obtain ⟨hlength, hrelated⟩ := List.forall₂_iff_zip.mp h
  -- Both sorts are the sort of the pairs of related entries.
  let both := (l.zip l').mergeSort fun p q => le p.1 q.1
  have hmem : ∀ p ∈ both, p ∈ l.zip l' := fun p hp => List.mem_mergeSort.mp hp
  have hleft : both.map Prod.fst = l.mergeSort le := by
    have halike : ∀ p ∈ l.zip l', ∀ q ∈ l.zip l', le p.1 q.1 = le p.1 q.1 := fun _ _ _ _ => rfl
    rw [List.map_mergeSort halike, List.map_fst_zip (Nat.le_of_eq hlength)]
  have hright : both.map Prod.snd = l'.mergeSort le' := by
    have halike :
        ∀ p ∈ l.zip l', ∀ q ∈ l.zip l', le p.1 q.1 = le' p.2 q.2 := fun p hp q hq =>
      alike _ _ _ _ (hrelated hp) (hrelated hq)
    rw [List.map_mergeSort halike, List.map_snd_zip (Nat.le_of_eq hlength.symm)]
  rw [← hleft, ← hright, List.forall₂_map_left_iff, List.forall₂_map_right_iff, List.forall₂_same]
  exact fun p hp => hrelated (hmem p hp)

end Counterpart
