import Counterpart.Modifier.Order
import Counterpart.Proofs.Sorting
import Mathlib.Data.List.Destutter
import Mathlib.Data.String.Basic

/-!
# Modifiers in the order of display

The modifiers of a type or member are shown once each: first those that have a precedence on their
side, as the precedence lists them, then the others in the order of their characters.  No two tokens
share a place in this order.  So a set of tokens is shown in one way only, in whatever order and how
often its tokens are stated; and equal tokens are neighbours once they are sorted, so that it is
enough to remove neighbours that are equal.

* `precedes_iff`: what comes before what in the display.
* `eq_sorted_iff`: the one list that shows given tokens.
* `destutter_mergeSort_eq_sorted`: repetitions may as well be removed after sorting.
* `modifiers_are_shown_canonically`: the display as a canonical form of sets of tokens.
-/

namespace Counterpart
namespace Modifier

/-- A token comes before another one in the display of a side. -/
inductive Precedes (side : Side) (first second : String) : Prop
  /-- Both have a precedence. -/
  | byPrecedence {i j : Nat}
      (earlier : i < j)
      (listedFirst : (precedence side)[i]? = some first)
      (listedSecond : (precedence side)[j]? = some second) :
      Precedes side first second
  /-- Only the first one has a precedence. -/
  | unlistedLast
      (listedFirst : first ∈ precedence side)
      (unlistedSecond : second ∉ precedence side) :
      Precedes side first second
  /-- Neither has a precedence. -/
  | bySpelling
      (unlistedFirst : first ∉ precedence side)
      (unlistedSecond : second ∉ precedence side)
      (less : first < second) :
      Precedes side first second

section Order

variable {side : Side} {first second : String}

theorem nodup_precedence
    (side : Side) :
    (precedence side).Nodup := by
  cases side <;> decide

theorem rank_of_getElem?_eq
    {i : Nat} (h : (precedence side)[i]? = some first) :
    rank side first = i := by
  obtain ⟨hi, rfl⟩ := List.getElem?_eq_some_iff.mp h
  exact (nodup_precedence side).idxOf_getElem i hi

theorem rank_lt_iff_mem :
    rank side first < (precedence side).length ↔ first ∈ precedence side :=
  List.idxOf_lt_length_iff

theorem rank_eq_of_not_mem
    (h : first ∉ precedence side) :
    rank side first = (precedence side).length :=
  List.idxOf_of_notMem h

theorem displayOrder_eq_lt_iff :
    displayOrder side first second = .lt ↔
      rank side first < rank side second ∨
        rank side first = rank side second ∧ first < second := by
  rw [displayOrder, compareLex, Ordering.then_eq_lt, compareOn, compare_lt_iff_lt,
    compare_eq_iff_eq, compare_lt_iff_lt]

/-- The order of display tells all tokens apart. -/
theorem precedes_iff :
    Precedes side first second ↔ displayOrder side first second = .lt := by
  rw [displayOrder_eq_lt_iff]
  constructor
  · intro h
    cases h with
    | byPrecedence earlier listedFirst listedSecond =>
        rw [rank_of_getElem?_eq listedFirst, rank_of_getElem?_eq listedSecond]
        exact Or.inl earlier
    | unlistedLast listedFirst unlistedSecond =>
        rw [rank_eq_of_not_mem unlistedSecond]
        exact Or.inl (rank_lt_iff_mem.mpr listedFirst)
    | bySpelling unlistedFirst unlistedSecond less =>
        rw [rank_eq_of_not_mem unlistedFirst, rank_eq_of_not_mem unlistedSecond]
        exact Or.inr ⟨rfl, less⟩
  · rintro (hrank | ⟨hrank, hless⟩)
    · have hfirst : first ∈ precedence side :=
        rank_lt_iff_mem.mp (hrank.trans_le List.idxOf_le_length)
      by_cases hsecond : second ∈ precedence side
      · exact .byPrecedence hrank (List.getElem?_idxOf hfirst) (List.getElem?_idxOf hsecond)
      · exact .unlistedLast hfirst hsecond
    · have hfirst : first ∉ precedence side := fun hlisted =>
        hless.ne ((List.idxOf_inj hlisted).mp hrank)
      have hsecond : second ∉ precedence side := by
        rwa [← rank_lt_iff_mem, ← hrank, rank_lt_iff_mem]
      exact .bySpelling hfirst hsecond hless

instance : Std.TransCmp (displayOrder side) := by
  unfold displayOrder
  infer_instance

instance : Std.LawfulEqCmp (displayOrder side) where
  compare_self := Std.ReflCmp.compare_self
  eq_of_compare h := by
    rw [displayOrder, compareLex_eq_eq] at h
    exact Std.LawfulEqOrd.eq_of_compare h.2

theorem Precedes.ne
    (h : Precedes side first second) :
    first ≠ second := by
  rintro rfl
  have hself : displayOrder side first first = .eq := Std.ReflCmp.compare_self
  rw [precedes_iff, hself] at h
  exact Ordering.noConfusion h

instance : Trans (Precedes side) (Precedes side) (Precedes side) where
  trans h h' := precedes_iff.mpr (Std.TransCmp.lt_trans (precedes_iff.mp h) (precedes_iff.mp h'))

theorem Precedes.not_precedes
    (h : Precedes side first second) :
    ¬ Precedes side second first :=
  fun h' => (Trans.trans h h' : Precedes side first first).ne rfl

theorem precedes_of_isLE_of_ne
    (h : (displayOrder side first second).isLE = true) (hne : first ≠ second) :
    Precedes side first second := by
  rw [precedes_iff]
  rcases Ordering.isLE_iff_eq_lt_or_eq_eq.mp h with hlt | heq
  · exact hlt
  · exact absurd (Std.LawfulEqCmp.eq_of_compare heq) hne

end Order

section Sorted

variable {side : Side} {tokens tokens' : List String}

theorem nodup_of_pairwise_precedes
    (h : tokens.Pairwise (Precedes side)) :
    tokens.Nodup :=
  h.imp Precedes.ne

/-- Lists in the order of display that have the same tokens are the same. -/
theorem eq_of_pairwise_precedes
    (h : tokens.Pairwise (Precedes side)) (h' : tokens'.Pairwise (Precedes side))
    (same : ∀ token, token ∈ tokens ↔ token ∈ tokens') :
    tokens = tokens' := by
  -- Without repetitions, the members of a list tell it up to a permutation.
  have hperm : tokens.Perm tokens' :=
    (List.perm_ext_iff_of_nodup (nodup_of_pairwise_precedes h)
      (nodup_of_pairwise_precedes h')).mpr same
  exact List.Perm.eq_of_pairwise (fun _ _ _ _ hab hba => absurd hba hab.not_precedes) h h' hperm

theorem nodup_eraseDups
    (tokens : List String) :
    tokens.eraseDups.Nodup := by
  induction hlength : tokens.length using Nat.strong_induction_on generalizing tokens with
  | h n ih =>
      cases tokens with
      | nil =>
          exact List.nodup_nil
      | cons token rest =>
          rw [List.eraseDups_cons, List.nodup_cons, List.mem_eraseDups]
          refine ⟨by simp, ih _ ?_ _ rfl⟩
          rw [← hlength, List.length_cons]
          exact Nat.lt_succ_of_le (List.length_filter_le _ rest)

theorem nodup_sorted
    (side : Side) (tokens : List String) :
    (sorted side tokens).Nodup :=
  (List.mergeSort_perm _ _).nodup_iff.mpr (nodup_eraseDups tokens)

/-- Sorted tokens are in the order of display if no neighbours are equal. -/
theorem pairwise_precedes_of_isChain_ne
    (ordered : tokens.Pairwise fun a b => (displayOrder side a b).isLE = true)
    (apart : tokens.IsChain (· ≠ ·)) :
    tokens.Pairwise (Precedes side) := by
  rw [← List.isChain_iff_pairwise]
  induction tokens with
  | nil =>
      exact .nil
  | cons first rest ih =>
      cases rest with
      | nil =>
          exact .singleton first
      | cons second others =>
          rw [List.isChain_cons_cons] at apart ⊢
          have hle := List.rel_of_pairwise_cons ordered (List.mem_cons_self ..)
          exact ⟨precedes_of_isLE_of_ne hle apart.1, ih ordered.of_cons apart.2⟩

theorem pairwise_precedes_sorted
    (side : Side) (tokens : List String) :
    (sorted side tokens).Pairwise (Precedes side) :=
  pairwise_precedes_of_isChain_ne (pairwise_mergeSort (displayOrder side) tokens.eraseDups)
    (nodup_sorted side tokens).isChain

/-- Only one list has given tokens in the order of display. -/
theorem eq_sorted_iff :
    tokens' = sorted side tokens ↔
      tokens'.Pairwise (Precedes side) ∧ ∀ token, token ∈ tokens' ↔ token ∈ tokens := by
  constructor
  · rintro rfl
    exact ⟨pairwise_precedes_sorted side tokens, fun token => mem_sorted_iff⟩
  · rintro ⟨hordered, same⟩
    refine eq_of_pairwise_precedes hordered (pairwise_precedes_sorted side tokens) fun token => ?_
    rw [same, mem_sorted_iff]

/-- Lists are shown alike exactly if they have the same tokens. -/
theorem sorted_eq_sorted_iff :
    sorted side tokens' = sorted side tokens ↔ ∀ token, token ∈ tokens' ↔ token ∈ tokens := by
  rw [eq_sorted_iff, and_iff_right (pairwise_precedes_sorted side tokens')]
  simp only [mem_sorted_iff]

theorem mem_destutter'_ne_iff
    {token first : String} :
    token ∈ tokens.destutter' (· ≠ ·) first ↔ token ∈ first :: tokens := by
  induction tokens generalizing first with
  | nil =>
      rfl
  | cons second others ih =>
      rw [List.destutter'_cons]
      split
      case isTrue =>
        simp only [List.mem_cons, ih]
      case isFalse hsame =>
        rw [not_not.mp hsame, ih]
        simp

/-- Removing neighbours that are equal removes no token altogether. -/
theorem mem_destutter_ne_iff
    {token : String} :
    token ∈ tokens.destutter (· ≠ ·) ↔ token ∈ tokens := by
  cases tokens with
  | nil =>
      rfl
  | cons first rest =>
      exact mem_destutter'_ne_iff

/-- Once tokens are sorted, equal ones are neighbours. -/
theorem destutter_mergeSort_eq_sorted
    (side : Side) (tokens : List String) :
    (tokens.mergeSort fun a b => (displayOrder side a b).isLE).destutter (· ≠ ·) =
      sorted side tokens := by
  rw [eq_sorted_iff]
  constructor
  · apply pairwise_precedes_of_isChain_ne
    · exact (pairwise_mergeSort (displayOrder side) tokens).sublist (List.destutter_sublist _ _)
    · exact List.isChain_destutter _ _
  · intro token
    rw [mem_destutter_ne_iff, List.mem_mergeSort]

end Sorted

/-- The display of modifiers is a canonical form.  It has the tokens that are stated, each once, in
the order of display; what it shows is shown as it stands, and lists are shown alike exactly if they
have the same tokens.  Repetitions may be removed before sorting or as neighbours after it. -/
theorem modifiers_are_shown_canonically
    (side : Side) (tokens : List String) :
    (∀ token, token ∈ sorted side tokens ↔ token ∈ tokens) ∧
      (sorted side tokens).Nodup ∧
      (sorted side tokens).Pairwise (Precedes side) ∧
      sorted side (sorted side tokens) = sorted side tokens ∧
      (∀ tokens',
        sorted side tokens' = sorted side tokens ↔ ∀ token, token ∈ tokens' ↔ token ∈ tokens) ∧
      (tokens.mergeSort fun a b => (displayOrder side a b).isLE).destutter (· ≠ ·) =
        sorted side tokens :=
  ⟨fun _ => mem_sorted_iff, nodup_sorted side tokens, pairwise_precedes_sorted side tokens,
    sorted_eq_sorted_iff.mpr fun _ => mem_sorted_iff, fun _ => sorted_eq_sorted_iff,
    destutter_mergeSort_eq_sorted side tokens⟩

end Modifier
end Counterpart
