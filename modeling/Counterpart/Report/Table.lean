import Counterpart.Report.Text

/-!
# Reports as tables

A report as rows of cells separated by tabs, one row for every finding.  A pair without
differences has no row, so the table of a library is empty exactly when nothing is left to
reconcile.
-/

namespace Counterpart

/-- A row of the table of findings. -/
structure Row where
  library : String
  category : String
  reference : String
  target : String
  detail : String
  deriving DecidableEq

namespace Row

def header : List String :=
  ["library", "category", "reference", "target", "detail"]

def cells (row : Row) : List String :=
  [row.library, row.category, row.reference, row.target, row.detail]

def lineOf (cells : List String) : String :=
  Text.join "\t" cells

def line (row : Row) : String :=
  lineOf row.cells

end Row

/-- The findings on a pair, each with its category and detail. -/
def TypeDifference.findings (difference : TypeDifference) : List (String × String) :=
  (difference.modifiers.map fun mismatch =>
    ("modifiers",
      Text.join " " mismatch.reference ++ " vs " ++ Text.join " " mismatch.target)).toList ++
  (difference.baseType.map fun mismatch =>
    ("base_type", mismatch.reference.getD "" ++ " vs " ++ mismatch.target.getD "")).toList ++
  difference.contracts.toList.flatMap (fun mismatch =>
    mismatch.referenceOnly.map (("reference_only_contract", ·)) ++
      mismatch.targetOnly.map (("target_only_contract", ·))) ++
  difference.members.referenceOnly.map (fun entry => ("reference_only_member", entry.line)) ++
  difference.members.targetOnly.map (fun entry => ("target_only_member", entry.line)) ++
  difference.members.mismatches.map (fun mismatch => ("declared_type", mismatch.line))

/-- The rows of the findings on a pair. -/
def PairEntry.rows (library : String) (pair : PairEntry) : List Row :=
  pair.difference.findings.map fun finding =>
    ⟨library, finding.1, pair.reference.fullName, pair.target.fullName, finding.2⟩

namespace LibraryReport

/-- The rows of the findings on a library. -/
def rows (report : LibraryReport) : List Row :=
  report.unmatchedReference.map (fun entry =>
    ⟨report.library, "unmatched_reference", entry.type.fullName, "",
      Text.join "," entry.candidates⟩) ++
  report.unmatchedTarget.map (fun entry =>
    ⟨report.library, "unmatched_target", "", entry.type.fullName,
      Text.join "," entry.candidates⟩) ++
  report.matched.flatMap (PairEntry.rows report.library)

/-- The table of the findings on a library. -/
def tableLines (report : LibraryReport) : List String :=
  Row.lineOf Row.header :: report.rows.map Row.line

end LibraryReport

/-- The rows of what became of a library; one that failed has a single row. -/
def LibraryResult.rows : LibraryResult → List Row
  | compared report => report.rows
  | failed library error => [⟨library, "failed", "", "", error⟩]

/-- The table of the findings on a batch. -/
def BatchReport.tableLines (report : BatchReport) : List String :=
  Row.lineOf Row.header ::
    (report.libraries.flatMap LibraryResult.rows).map Row.line

/-- The table of an explanation: a row for every naming rule, and one for the outcome. -/
def Explanation.tableLines (explanation : Explanation) : List String :=
  [Row.lineOf ["reference", "rule", "expected", "candidates"]] ++
    explanation.rules.map (fun account =>
      Row.lineOf
        [ explanation.reference,
          account.rule.label,
          account.expectedName.getD "",
          Text.join "," account.candidates ]) ++
    [Row.lineOf [explanation.reference, "outcome", "", explanation.outcome.words]]

end Counterpart
