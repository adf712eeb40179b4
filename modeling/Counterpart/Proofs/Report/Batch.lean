import Counterpart.Command.Run
import Counterpart.Proofs.Report.Assembly
import Counterpart.Proofs.Sorting
import Mathlib.Algebra.BigOperators.Group.List.Basic
import Mathlib.Algebra.Ring.Nat
import Mathlib.Data.List.Nodup
import Mathlib.Data.String.Basic

/-!
# Libraries of a batch are compared on their own

The outcome of a library depends on nothing but its own documents and the settings, and a batch
report is a stable sort of the outcomes.  So what it says of some libraries is what a batch of
these alone would say, and its counts add up.

* `Summary.counts`, `Summary.count_sum`: the counts of a summary add up.
* `BatchReport.Isolates`, `BatchReport.isolates_ofOutcomes`: what it means that libraries are
  reported on their own, and that they are, wherever their outcomes come from.
* `batch_isolates_libraries`: the libraries of a batch are.
-/

namespace Counterpart

namespace Summary

/-- All counts of a summary. -/
def counts : List (Summary → Nat) :=
  [referenceTypes, targetTypes, matched, matchedWithDifferences, unmatchedReference,
    unmatchedTarget, ambiguous, referenceOnlyMembers, targetOnlyMembers, declaredTypeMismatches,
    skippedNonPublic, excludedTarget, warnings]

/-- Every count starts at zero and is added up. -/
theorem counts_additive :
    ∀ count ∈ counts, count {} = 0 ∧ ∀ a b, count (add a b) = count a + count b := by
  simp [counts, add]

theorem count_sum
    {count : Summary → Nat} (h : count ∈ counts) (summaries : List Summary) :
    count (sum summaries) = (summaries.map count).sum := by
  induction summaries with
  | nil =>
      exact (counts_additive count h).1
  | cons first rest ih =>
      rw [List.map_cons, List.sum_cons, ← ih]
      exact (counts_additive count h).2 first (sum rest)

end Summary

namespace BatchReport

/-- A report that treats the libraries of a batch on their own. -/
structure Isolates
    {α : Type} (name : α → String) (outcome : α → LibraryResult) (report : List α → BatchReport) :
    Prop where
  /-- Selected libraries are reported as if there were no others. -/
  selected (libraries : List α) (selects : String → Bool) :
    (report (libraries.filter fun a => selects (name a))).libraries =
      (report libraries).libraries.filter fun result => selects result.library
  outcomes (libraries : List α) : (report libraries).libraries.Perm (libraries.map outcome)
  sorted (libraries : List α) :
    (report libraries).libraries.Pairwise fun a b => a.library ≤ b.library
  /-- Libraries of the same name stay in their order. -/
  stable (libraries : List α) (shared : String) :
    ((report libraries).libraries.filter fun result => result.library == shared) =
      (libraries.filter fun a => name a == shared).map outcome
  /-- Those that were compared count for the totals, whatever becomes of the others. -/
  totals (libraries : List α) (count : Summary → Nat) (hcount : count ∈ Summary.counts) :
    count (report libraries).totals =
      (((libraries.map outcome).filterMap LibraryResult.summary?).map count).sum
  failed (libraries : List α) :
    (report libraries).failed = (libraries.map outcome).countP LibraryResult.isFailed
  totals_split (libraries : List α) (selects : String → Bool)
    (count : Summary → Nat) (hcount : count ∈ Summary.counts) :
    count (report libraries).totals =
      count (report (libraries.filter fun a => selects (name a))).totals +
        count (report (libraries.filter fun a => !selects (name a))).totals
  failed_split (libraries : List α) (selects : String → Bool) :
    (report libraries).failed =
      (report (libraries.filter fun a => selects (name a))).failed +
        (report (libraries.filter fun a => !selects (name a))).failed
  unordered (libraries others : List α) (distinct : (libraries.map name).Nodup)
    (hothers : others.Perm libraries) :
    report others = report libraries

theorem libraries_perm
    (outcomes : List LibraryResult) :
    (ofOutcomes outcomes).libraries.Perm outcomes :=
  List.mergeSort_perm outcomes _

theorem count_totals
    {count : Summary → Nat} (h : count ∈ Summary.counts) (outcomes : List LibraryResult) :
    count (ofOutcomes outcomes).totals =
      ((outcomes.filterMap LibraryResult.summary?).map count).sum := by
  have hperm := ((libraries_perm outcomes).filterMap LibraryResult.summary?).map count
  rw [← hperm.sum_eq, ← Summary.count_sum h]
  rfl

theorem failed_ofOutcomes
    (outcomes : List LibraryResult) :
    (ofOutcomes outcomes).failed = outcomes.countP LibraryResult.isFailed :=
  (libraries_perm outcomes).countP_eq _

section Isolates

variable {α : Type} {name : α → String} {outcome : α → LibraryResult}
  (named : ∀ a, (outcome a).library = name a)
include named

/-- Outcomes that carry the names of their libraries are selected like these. -/
theorem map_filter_name
    (libraries : List α) (selects : String → Bool) :
    (libraries.filter fun a => selects (name a)).map outcome =
      (libraries.map outcome).filter fun result => selects result.library := by
  rw [List.filter_map]
  simp only [Function.comp_def, named]

/-- However outcomes come about, they are sorted and counted without regard to one another. -/
theorem isolates_ofOutcomes :
    Isolates name outcome fun libraries => ofOutcomes (libraries.map outcome) where
  selected libraries selects := by
    rw [map_filter_name named]
    exact mergeSort_filter (compareOn LibraryResult.library) _ _
  outcomes libraries := libraries_perm _
  sorted libraries := by
    have hle (a b : LibraryResult) :
        (compare a.library b.library).isLE = true ↔ a.library ≤ b.library :=
      Std.LawfulBCmp.isLE_iff_le
    exact (pairwise_mergeSort (compareOn LibraryResult.library) _).imp (hle _ _).mp
  stable libraries shared := by
    rw [map_filter_name named libraries (· == shared)]
    refine filter_mergeSort_of_alike (compareOn LibraryResult.library) fun a _ b _ ha hb => ?_
    rw [beq_iff_eq] at ha hb
    have hself : compare shared shared = .eq := Std.ReflCmp.compare_self
    rw [compareOn, ha, hb, hself]
    rfl
  totals libraries count hcount := count_totals hcount _
  failed libraries := failed_ofOutcomes _
  totals_split libraries selects count hcount := by
    have hparts := (List.filter_append_perm (fun a => selects (name a)) libraries).map outcome
    simp only [count_totals hcount]
    rw [← ((hparts.filterMap LibraryResult.summary?).map count).sum_eq, List.map_append,
      List.filterMap_append, List.map_append, List.sum_append]
  failed_split libraries selects := by
    have hparts := (List.filter_append_perm (fun a => selects (name a)) libraries).map outcome
    simp only [failed_ofOutcomes]
    rw [← hparts.countP_eq, List.map_append, List.countP_append]
  unordered libraries others distinct hothers := by
    have hdistinct :
        ∀ a ∈ libraries.map outcome, ∀ b ∈ libraries.map outcome,
          compareOn LibraryResult.library a b = .eq → a = b := by
      intro first hfirst second hsecond hab
      obtain ⟨a, ha, rfl⟩ := List.mem_map.mp hfirst
      obtain ⟨b, hb, rfl⟩ := List.mem_map.mp hsecond
      have hnames : name a = name b := by
        rw [← named, ← named]
        exact Std.LawfulEqCmp.eq_of_compare hab
      rw [List.inj_on_of_nodup_map distinct ha hb hnames]
    have hsorted :
        (ofOutcomes (others.map outcome)).libraries =
          (ofOutcomes (libraries.map outcome)).libraries :=
      mergeSort_eq_of_perm_of_distinct (compareOn LibraryResult.library) hdistinct
        (hothers.map outcome)
    simp only [ofOutcomes] at hsorted ⊢
    rw [hsorted]

end Isolates

end BatchReport

end Counterpart
