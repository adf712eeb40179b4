import Counterpart.Matching.Explanation
import Counterpart.Report.Batch

/-!
# Reports as text

Reports and explanations for a reader, line by line.
-/

namespace Counterpart

def ruleLine : String :=
  String.ofList (List.replicate 60 '=')

/-- A member as one line: its kind, its modifiers, its signature. -/
def MemberEntry.line (entry : MemberEntry) : String :=
  Text.join " " ([entry.kind.label] ++ modifierText ++ [entry.signature])
where
  modifierText : List String :=
    if entry.modifiers.isEmpty then [] else [Text.join " " entry.modifiers]

/-- A mismatch of declared types as one line. -/
def ValueTypeMismatch.line (mismatch : ValueTypeMismatch) : String :=
  mismatch.kind.label ++ " " ++ mismatch.referenceName ++ ": " ++ mismatch.referenceType ++
    " vs " ++ mismatch.targetType

def UnmatchedEntry.line (entry : UnmatchedEntry) : String :=
  let type := entry.type.kind.label ++ " " ++ entry.type.readableName
  if entry.candidates.isEmpty then "  " ++ type
  else "  " ++ type ++ " (ambiguous: " ++ Text.join ", " entry.candidates ++ ")"

/-- The lines of the left-over types of a side, under a title. -/
def UnmatchedEntry.titledLines (title : String) (entries : List UnmatchedEntry) : List String :=
  if entries.isEmpty then [] else ["", title ++ ":"] ++ entries.map UnmatchedEntry.line

namespace TypeDifference

/-- The lines of the differences of a pair. -/
def lines (difference : TypeDifference) : List String :=
  (difference.modifiers.map fun mismatch =>
    "    modifiers: " ++ Text.join " " mismatch.reference ++ " vs " ++
      Text.join " " mismatch.target).toList ++
  (difference.baseType.map fun mismatch =>
    "    base type: " ++ mismatch.reference.getD "(none)" ++ " vs " ++
      mismatch.target.getD "(none)").toList ++
  difference.contracts.toList.flatMap (fun mismatch =>
    mismatch.referenceOnly.map ("    - contract " ++ ·) ++
      mismatch.targetOnly.map ("    + contract " ++ ·)) ++
  difference.members.referenceOnly.map (fun entry => "    - " ++ entry.line) ++
  difference.members.targetOnly.map (fun entry => "    + " ++ entry.line) ++
  difference.members.mismatches.map (fun mismatch => "    ~ " ++ mismatch.line)

end TypeDifference

def PairEntry.lines (pair : PairEntry) : List String :=
  ("  " ++ pair.reference.readableName ++ " -> " ++ pair.target.readableName ++ " [" ++
    pair.reason.label ++ "]") :: pair.difference.lines

namespace Summary

def matchedLine (summary : Summary) : String :=
  s!"  Matched types: {summary.matched} ({summary.matchedWithDifferences} with differences)"

/-- The lines of the summary of one library. -/
def lines (summary : Summary) : List String :=
  [ "",
    "Summary:",
    summary.matchedLine,
    s!"  Unmatched reference types: {summary.unmatchedReference} ({summary.ambiguous} ambiguous)",
    s!"  Unmatched target types: {summary.unmatchedTarget}",
    s!"  Members: {summary.referenceOnlyMembers} reference only, " ++
      s!"{summary.targetOnlyMembers} target only, " ++
      s!"{summary.declaredTypeMismatches} type mismatches",
    s!"  Excluded: {summary.skippedNonPublic} non-public reference, " ++
      s!"{summary.excludedTarget} without reference equivalent" ]

end Summary

/-- The title of the report on a library. -/
def libraryTitle (library : String) : List String :=
  ["API Parity: " ++ library, ruleLine]

namespace LibraryReport

/-- The line on the versions of both sides, if either is known. -/
def versionLines (report : LibraryReport) : List String :=
  if report.referenceVersion.isSome || report.targetVersion.isSome then
    [ "Versions: " ++ report.referenceVersion.getD "?" ++ " -> " ++
        report.targetVersion.getD "?" ]
  else []

def differenceLines (report : LibraryReport) : List String :=
  let divergent := report.matched.filter fun pair => !pair.difference.isClean
  if divergent.isEmpty then []
  else ["", "Matched types with differences:"] ++ divergent.flatMap PairEntry.lines

def warningLines (report : LibraryReport) : List String :=
  if report.warnings.isEmpty then []
  else ["", "Warnings:"] ++ report.warnings.map fun warning => "  " ++ warning.message

def lines (report : LibraryReport) : List String :=
  libraryTitle report.library ++ report.versionLines ++ report.summary.lines ++
    UnmatchedEntry.titledLines "Unmatched reference types" report.unmatchedReference ++
    UnmatchedEntry.titledLines "Unmatched target types" report.unmatchedTarget ++
    report.differenceLines ++ report.warningLines

end LibraryReport

def LibraryResult.lines : LibraryResult → List String
  | compared report => report.lines
  | failed library error => libraryTitle library ++ ["  FAILED: " ++ error]

def BatchReport.lines (report : BatchReport) : List String :=
  report.libraries.flatMap (fun outcome => outcome.lines ++ [""]) ++
    [ "Totals",
      ruleLine,
      report.totals.matchedLine,
      s!"  Unmatched reference types: {report.totals.unmatchedReference}",
      s!"  Unmatched target types: {report.totals.unmatchedTarget}",
      s!"  Failed libraries: {report.failed}" ]

/-- What became of a reference type, in words. -/
def Outcome.words : Outcome → String
  | matched target reason => "matched " ++ target ++ " by " ++ reason.label
  | ambiguous candidates => "ambiguous between " ++ Text.join ", " candidates
  | unmatched => "unmatched"

/-- The line of what a naming rule says. -/
def RuleAccount.line (account : RuleAccount) : String :=
  let expected := account.expectedName.getD "(not applicable)"
  if account.candidates.isEmpty then "  " ++ account.rule.label ++ ": " ++ expected
  else
    "  " ++ account.rule.label ++ ": " ++ expected ++ " -> " ++
      Text.join ", " account.candidates

def Explanation.lines (explanation : Explanation) : List String :=
  [ "Matching " ++ explanation.kind.label ++ " " ++ explanation.reference,
    ruleLine,
    "  Expected namespace: " ++ explanation.targetNamespace,
    "  Override: " ++ explanation.overrideTarget.getD "(none)",
    "  Declared equivalents: " ++
      (if explanation.declaredEquivalents.isEmpty then "(none)"
        else Text.join ", " explanation.declaredEquivalents),
    "",
    "Heuristic rules:" ] ++
    explanation.rules.map RuleAccount.line ++
    ["", "Outcome: " ++ explanation.outcome.words]

end Counterpart
