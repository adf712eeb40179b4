import Counterpart.Proofs.Report.Completeness
import Counterpart.Proofs.Report.Shown
import Mathlib.Algebra.BigOperators.Group.List.Basic
import Mathlib.Algebra.Ring.Nat

/-!
# The table of a report

A table has one row for every finding, and a column for every cell unless a cell has a separator of
its own.  A comparison never reports contracts that differ without a contract to show, so a table
is empty exactly if nothing is left to reconcile.

* `LibraryReport.countP_rows`, `LibraryReport.length_rows`: how many rows there are, for each
  category and in all.
* `LibraryReport.rows_eq_nil_iff`: an empty table and a summary without divergence.
* `Row.length_pieces_line_iff`: when a row has its five columns.
-/

namespace Counterpart

/-! ## Counting rows -/

namespace TypeDifference

/-- The contracts on the reference side only. -/
def referenceOnlyContracts (difference : TypeDifference) : List String :=
  difference.contracts.toList.flatMap ContractDifference.referenceOnly

/-- The contracts on the target side only. -/
def targetOnlyContracts (difference : TypeDifference) : List String :=
  difference.contracts.toList.flatMap ContractDifference.targetOnly

/-- The categories of findings on a pair, each with the number of its findings. -/
def counters : List (String × (TypeDifference → Nat)) :=
  [ ("modifiers", fun difference => difference.modifiers.toList.length),
    ("base_type", fun difference => difference.baseType.toList.length),
    ("reference_only_contract", fun difference => difference.referenceOnlyContracts.length),
    ("target_only_contract", fun difference => difference.targetOnlyContracts.length),
    ("reference_only_member", fun difference => difference.members.referenceOnly.length),
    ("target_only_member", fun difference => difference.members.targetOnly.length),
    ("declared_type", fun difference => difference.members.mismatches.length) ]

variable (difference : TypeDifference)

theorem countP_findings :
    ∀ counter ∈ counters,
      (difference.findings.countP fun finding => finding.1 == counter.1) =
        counter.2 difference := by
  simp [counters, findings, referenceOnlyContracts, targetOnlyContracts, Option.toList_map,
    List.countP_flatMap, List.length_flatMap, Function.comp_def]

theorem length_findings :
    difference.findings.length = (counters.map fun counter => counter.2 difference).sum := by
  simp [counters, findings, referenceOnlyContracts, targetOnlyContracts, Option.toList_map,
    List.length_flatMap]
  omega

/-- No finding is about a type that is left over. -/
theorem countP_findings_unmatched
    {category : String} (h : category ∈ ["unmatched_reference", "unmatched_target"]) :
    (difference.findings.countP fun finding => finding.1 == category) = 0 := by
  rcases List.mem_pair.mp h with rfl | rfl <;>
    simp [findings, Option.toList_map, List.countP_flatMap, Function.comp_def]

end TypeDifference

namespace LibraryReport

/-- The number of rows of each category: the types left over, and the findings on all pairs. -/
def counts (report : LibraryReport) : List (String × Nat) :=
  [ ("unmatched_reference", report.unmatchedReference.length),
    ("unmatched_target", report.unmatchedTarget.length) ] ++
  TypeDifference.counters.map fun counter =>
    (counter.1, (report.matched.map fun pair => counter.2 pair.difference).sum)

variable (report : LibraryReport)

/-- The rows of a category are about types left over on one side, or about pairs. -/
theorem countP_rows_eq
    (category : String) :
    (report.rows.countP fun row => row.category == category) =
      (if "unmatched_reference" = category then report.unmatchedReference.length else 0) +
        (if "unmatched_target" = category then report.unmatchedTarget.length else 0) +
        (report.matched.map fun pair =>
          pair.difference.findings.countP fun finding => finding.1 == category).sum := by
  have hpairs :
      ((report.matched.flatMap (PairEntry.rows report.library)).countP fun row =>
          row.category == category) =
        (report.matched.map fun pair =>
          pair.difference.findings.countP fun finding => finding.1 == category).sum := by
    simp [List.countP_flatMap, PairEntry.rows, Function.comp_def]
  rw [rows, List.countP_append, List.countP_append, hpairs]
  congr 2 <;> split <;> simp_all [Function.comp_def]

/-- A table has the rows of each category. -/
theorem countP_rows :
    ∀ count ∈ report.counts,
      (report.rows.countP fun row => row.category == count.1) = count.2 := by
  rw [counts, List.forall_mem_append, List.forall_mem_map]
  constructor
  · simp [countP_rows_eq, TypeDifference.countP_findings_unmatched]
  · intro counter hcounter
    have hcategory :
        "unmatched_reference" ≠ counter.1 ∧ "unmatched_target" ≠ counter.1 := by
      revert counter
      simp [TypeDifference.counters]
    simp [countP_rows_eq, hcategory, TypeDifference.countP_findings _ counter hcounter]

/-- A table has no other rows. -/
theorem length_rows :
    report.rows.length = (report.counts.map Prod.snd).sum := by
  simp [counts, rows, PairEntry.rows, List.length_flatMap, TypeDifference.length_findings,
    TypeDifference.counters]

end LibraryReport

/-! ## Empty tables -/

namespace Scope

variable {scope : Scope} {reference target : TypeDecl}

/-- Contracts that differ are never reported without one to show. -/
theorem contracts_ne_nil_of_contractDifference?_eq_some
    {first second : List String} {mismatch : ContractDifference}
    (h : scope.contractDifference? first second = some mismatch) :
    ¬ (mismatch.referenceOnly = [] ∧ mismatch.targetOnly = []) := by
  simp only [contractDifference?] at h
  split at h
  · cases h
  · next hnonempty =>
      obtain rfl := Option.some.inj h
      simpa [sortNames, ← List.length_eq_zero_iff] using hnonempty

/-- A pair has a finding unless it is clean. -/
theorem findings_eq_nil_iff
    {difference : TypeDifference} (h : scope.difference reference target = .ok difference) :
    difference.findings = [] ↔ difference.isClean = true := by
  have hcontracts :
      (∀ mismatch, difference.contracts = some mismatch →
          mismatch.referenceOnly = [] ∧ mismatch.targetOnly = []) ↔
        difference.contracts = none := by
    constructor
    · intro hempty
      rw [Option.eq_none_iff_forall_ne_some]
      intro mismatch hmismatch
      exact
        contracts_ne_nil_of_contractDifference?_eq_some
          (contractDifference?_of_difference_eq_ok h hmismatch) (hempty mismatch hmismatch)
    · intro hnone mismatch hmismatch
      rw [hnone] at hmismatch
      cases hmismatch
  simp only [TypeDifference.findings, List.append_eq_nil_iff, Option.toList_eq_nil_iff,
    Option.map_eq_none_iff, List.flatMap_eq_nil_iff, Option.mem_toList, List.map_eq_nil_iff,
    hcontracts, TypeDifference.isClean, MemberDifference.isEmpty, Bool.and_eq_true,
    Option.isNone_iff_eq_none, List.isEmpty_iff]
  tauto

end Scope

/-- A table is empty exactly if nothing is left to reconcile. -/
theorem LibraryReport.rows_eq_nil_iff
    {name : String} {reference target : Surface} {settings : Settings} {report : LibraryReport}
    (h : ofSurfaces name reference target settings = .ok report) :
    report.rows = [] ↔ report.summary.diverges = false := by
  have hfindings :
      ∀ pair ∈ report.matched,
        pair.difference.findings = [] ↔ pair.difference.isClean = true := by
    obtain ⟨pairs, hpairs, rfl⟩ := exists_pairs_of_ofSurfaces_eq_ok h
    intro pair hpair
    obtain ⟨pairing, _, hentry⟩ :=
      exists_of_mem_of_mapM_eq_ok hpairs (List.mem_mergeSort.mp hpair)
    obtain ⟨difference, hdifference, rfl⟩ := Scope.exists_difference_of_pairEntry_eq_ok hentry
    exact Scope.findings_eq_nil_iff hdifference
  rw [(report_complete h).diverges]
  simp only [rows, List.append_eq_nil_iff, List.map_eq_nil_iff, List.flatMap_eq_nil_iff,
    PairEntry.rows, and_assoc]
  exact and_congr_right fun _ => and_congr_right fun _ => forall₂_congr hfindings

/-! ## Lines and columns -/

namespace Row

theorem lacks_break_line
    {row : Row} (h : ∀ cell ∈ row.cells, Text.Lacks '\n' cell) :
    Text.Lacks '\n' row.line :=
  Text.lacks_join (by decide) h

/-- A row has five columns exactly if no cell has a separator of its own. -/
theorem length_pieces_line_iff
    {row : Row} :
    (Text.pieces '\t' row.line).length = 5 ↔ ∀ cell ∈ row.cells, Text.Lacks '\t' cell :=
  Text.length_pieces_join_eq_iff (List.cons_ne_nil _ _)

end Row

/-- The lines of a table are its header and its rows. -/
theorem LibraryReport.lines_tableLines
    {report : LibraryReport} (h : ∀ row ∈ report.rows, ∀ cell ∈ row.cells, Text.Lacks '\n' cell) :
    Text.lines (String.join (report.tableLines.map (· ++ "\n"))) =
      Row.lineOf Row.header :: report.rows.map Row.line := by
  refine Text.lines_join_ended ?_
  rw [tableLines, List.forall_mem_cons, List.forall_mem_map]
  exact ⟨by decide, fun row hrow => Row.lacks_break_line (h row hrow)⟩

end Counterpart
