import Counterpart.Document.Surface
import Counterpart.Matching.Explanation
import Counterpart.Report.Batch

/-!
# Documents of reports

The JSON form of reports, and of what they are made of.  Where a report is read, the object
form of a word may hold null or an empty object.
-/

namespace Counterpart

def Rule.ofJson? (json : Json) : Option Rule :=
  json.looseTag?.bind ofKey?

def Member.Kind.ofJson? (json : Json) : Option Member.Kind :=
  json.looseTag?.bind ofLabel?

namespace Reason

def toJson : Reason → Json
  | override => .object [("step", .string "override")]
  | declaredEquivalent => .object [("step", .string "declared_equivalent")]
  | heuristic rule => .object [("step", .string "heuristic"), ("rule", .string rule.key)]

/-- The words for the steps, in the order of their positions. -/
def steps : List String :=
  ["override", "declared_equivalent", "heuristic"]

def ofJson? (json : Json) : Option Reason := do
  let (step, part) ← json.tagged? "step" (Json.variant? steps)
  match step with
  | "override" => (part.record? [] []).map fun _ => .override
  | "declared_equivalent" => (part.record? [] []).map fun _ => .declaredEquivalent
  | "heuristic" =>
    let entries ← part.record? ["rule"] []
    return .heuristic (← Json.required? "rule" Rule.ofJson? entries)
  | _ => none

end Reason

namespace Warning

def toJson : Warning → Json
  | duplicateOverride reference =>
    .object [("warning", .string "duplicate_override"), ("reference", .string reference)]
  | referenceNotFound reference =>
    .object
      [("warning", .string "override_reference_not_found"), ("reference", .string reference)]
  | targetNotFound reference target =>
    .object
      [ ("warning", .string "override_target_not_found"),
        ("reference", .string reference),
        ("target", .string target) ]
  | targetTaken reference target owner =>
    .object
      [ ("warning", .string "override_target_already_matched"),
        ("reference", .string reference),
        ("target", .string target),
        ("matched_by", .string owner) ]

/-- The words for the warnings, in the order of their positions. -/
def tags : List String :=
  [ "override_reference_not_found", "override_target_not_found",
    "override_target_already_matched", "duplicate_override" ]

def ofJson? (json : Json) : Option Warning := do
  let (tag, part) ← json.tagged? "warning" (Json.variant? tags)
  match tag with
  | "duplicate_override" =>
    let entries ← part.record? ["reference"] []
    return .duplicateOverride (← Json.required? "reference" Json.text? entries)
  | "override_reference_not_found" =>
    let entries ← part.record? ["reference"] []
    return .referenceNotFound (← Json.required? "reference" Json.text? entries)
  | "override_target_not_found" =>
    let entries ← part.record? ["reference", "target"] []
    let reference ← Json.required? "reference" Json.text? entries
    let target ← Json.required? "target" Json.text? entries
    return .targetNotFound reference target
  | "override_target_already_matched" =>
    let entries ← part.record? ["reference", "target", "matched_by"] []
    let reference ← Json.required? "reference" Json.text? entries
    let target ← Json.required? "target" Json.text? entries
    let owner ← Json.required? "matched_by" Json.text? entries
    return .targetTaken reference target owner
  | _ => none

end Warning

namespace MemberEntry

def toJson (entry : MemberEntry) : Json :=
  .object
    [ ("member_kind", .string entry.kind.label),
      ("name", .string entry.name),
      ("signature", .string entry.signature),
      ("modifiers", Json.ofTexts entry.modifiers),
      ("is_static", .bool entry.isStatic) ]

def ofJson? (json : Json) : Option MemberEntry := do
  let entries ←
    json.record? ["member_kind", "name", "signature", "modifiers", "is_static"] []
  let kind ← Json.required? "member_kind" Member.Kind.ofJson? entries
  let name ← Json.required? "name" Json.text? entries
  let signature ← Json.required? "signature" Json.text? entries
  let modifiers ← Json.required? "modifiers" (Json.list? Json.text?) entries
  let isStatic ← Json.required? "is_static" Json.bool? entries
  return { kind, name, signature, modifiers, isStatic }

end MemberEntry

namespace ValueTypeMismatch

def toJson (mismatch : ValueTypeMismatch) : Json :=
  .object
    [ ("member_kind", .string mismatch.kind.label),
      ("reference_name", .string mismatch.referenceName),
      ("target_name", .string mismatch.targetName),
      ("reference_type", .string mismatch.referenceType),
      ("target_type", .string mismatch.targetType) ]

def ofJson? (json : Json) : Option ValueTypeMismatch := do
  let entries ←
    json.record?
      ["member_kind", "reference_name", "target_name", "reference_type", "target_type"] []
  let kind ← Json.required? "member_kind" Member.Kind.ofJson? entries
  let referenceName ← Json.required? "reference_name" Json.text? entries
  let targetName ← Json.required? "target_name" Json.text? entries
  let referenceType ← Json.required? "reference_type" Json.text? entries
  let targetType ← Json.required? "target_type" Json.text? entries
  return { kind, referenceName, targetName, referenceType, targetType }

end ValueTypeMismatch

namespace MemberDifference

def toJson (difference : MemberDifference) : Json :=
  .object
    [ ("reference_only", .array (difference.referenceOnly.map MemberEntry.toJson)),
      ("target_only", .array (difference.targetOnly.map MemberEntry.toJson)),
      ("declared_type_mismatches",
        .array (difference.mismatches.map ValueTypeMismatch.toJson)) ]

def ofJson? (json : Json) : Option MemberDifference := do
  let entries ←
    json.record? ["reference_only", "target_only", "declared_type_mismatches"] []
  let referenceOnly ←
    Json.required? "reference_only" (Json.list? MemberEntry.ofJson?) entries
  let targetOnly ← Json.required? "target_only" (Json.list? MemberEntry.ofJson?) entries
  let mismatches ←
    Json.required? "declared_type_mismatches" (Json.list? ValueTypeMismatch.ofJson?) entries
  return { referenceOnly, targetOnly, mismatches }

end MemberDifference

namespace ModifierDifference

def toJson (mismatch : ModifierDifference) : Json :=
  .object
    [ ("reference", Json.ofTexts mismatch.reference),
      ("target", Json.ofTexts mismatch.target) ]

def ofJson? (json : Json) : Option ModifierDifference := do
  let entries ← json.record? ["reference", "target"] []
  let reference ← Json.required? "reference" (Json.list? Json.text?) entries
  let target ← Json.required? "target" (Json.list? Json.text?) entries
  return { reference, target }

end ModifierDifference

namespace BaseTypeDifference

/-- A difference of base types in a report; a missing base type is null. -/
def toJson (mismatch : BaseTypeDifference) : Json :=
  .object
    [ ("reference", Json.ofText? mismatch.reference),
      ("target", Json.ofText? mismatch.target) ]

def ofJson? (json : Json) : Option BaseTypeDifference := do
  let entries ← json.record? ["reference", "target"] []
  let reference ← Json.optional? "reference" Json.text? entries
  let target ← Json.optional? "target" Json.text? entries
  return { reference, target }

end BaseTypeDifference

namespace ContractDifference

def toJson (mismatch : ContractDifference) : Json :=
  .object
    [ ("reference_only", Json.ofTexts mismatch.referenceOnly),
      ("target_only", Json.ofTexts mismatch.targetOnly) ]

def ofJson? (json : Json) : Option ContractDifference := do
  let entries ← json.record? ["reference_only", "target_only"] []
  let referenceOnly ← Json.required? "reference_only" (Json.list? Json.text?) entries
  let targetOnly ← Json.required? "target_only" (Json.list? Json.text?) entries
  return { referenceOnly, targetOnly }

end ContractDifference

namespace TypeDifference

/-- The differences of a pair in a report; what does not differ is left out. -/
def toJson (difference : TypeDifference) : Json :=
  .object
    ((difference.modifiers.map fun mismatch => ("modifiers", mismatch.toJson)).toList ++
      (difference.baseType.map fun mismatch => ("base_type", mismatch.toJson)).toList ++
      (difference.contracts.map fun mismatch => ("contracts", mismatch.toJson)).toList ++
      [("members", difference.members.toJson)])

def ofJson? (json : Json) : Option TypeDifference := do
  let entries ← json.record? ["modifiers", "base_type", "contracts", "members"] []
  let modifiers ← Json.optional? "modifiers" ModifierDifference.ofJson? entries
  let baseType ← Json.optional? "base_type" BaseTypeDifference.ofJson? entries
  let contracts ← Json.optional? "contracts" ContractDifference.ofJson? entries
  let members ← Json.required? "members" MemberDifference.ofJson? entries
  return { modifiers, baseType, contracts, members }

end TypeDifference

namespace TypeEntry

def toEntries (entry : TypeEntry) : List (String × Json) :=
  [ ("kind", .string entry.kind.label),
    ("full_name", .string entry.fullName),
    ("display_name", .string entry.readableName),
    ("modifiers", Json.ofTexts entry.modifiers) ]

/-- The kind of a type in a report. -/
def kindOfJson? (json : Json) : Option TypeDecl.Kind :=
  json.looseTag?.bind TypeDecl.Kind.ofLabel?

def ofEntries? (entries : List (String × Json)) : Option TypeEntry := do
  let kind ← Json.required? "kind" kindOfJson? entries
  let fullName ← Json.required? "full_name" Json.text? entries
  let readableName ← Json.required? "display_name" Json.text? entries
  let modifiers ← Json.required? "modifiers" (Json.list? Json.text?) entries
  return { kind, fullName, readableName, modifiers }

def toJson (entry : TypeEntry) : Json :=
  .object entry.toEntries

def ofJson? (json : Json) : Option TypeEntry :=
  (json.record? ["kind", "full_name", "display_name", "modifiers"] []).bind ofEntries?

end TypeEntry

namespace UnmatchedEntry

def toJson (entry : UnmatchedEntry) : Json :=
  .object
    (entry.type.toEntries ++ Json.listEntry "ambiguous_candidates" .string entry.candidates)

def ofJson? (json : Json) : Option UnmatchedEntry := do
  let entries ← json.entries?
  let candidates ← Json.texts? "ambiguous_candidates" entries
  let type ← TypeEntry.ofEntries? entries
  return { type, candidates }

end UnmatchedEntry

namespace PairEntry

def toJson (pair : PairEntry) : Json :=
  .object
    [ ("reference", pair.reference.toJson),
      ("target", pair.target.toJson),
      ("reason", pair.reason.toJson),
      ("diff", pair.difference.toJson) ]

def ofJson? (json : Json) : Option PairEntry := do
  let entries ← json.record? ["reference", "target", "reason", "diff"] []
  let reference ← Json.required? "reference" TypeEntry.ofJson? entries
  let target ← Json.required? "target" TypeEntry.ofJson? entries
  let reason ← Json.required? "reason" Reason.ofJson? entries
  let difference ← Json.required? "diff" TypeDifference.ofJson? entries
  return { reference, target, reason, difference }

end PairEntry

namespace Excluded

def toJson (excluded : Excluded) : Json :=
  .object
    [ ("non_public_reference", Json.ofTexts excluded.nonPublicReference),
      ("no_reference_equivalent", Json.ofTexts excluded.withoutReference) ]

def ofJson? (json : Json) : Option Excluded := do
  let entries ← json.record? ["non_public_reference", "no_reference_equivalent"] []
  let nonPublicReference ←
    Json.required? "non_public_reference" (Json.list? Json.text?) entries
  let withoutReference ←
    Json.required? "no_reference_equivalent" (Json.list? Json.text?) entries
  return { nonPublicReference, withoutReference }

end Excluded

namespace Summary

def toJson (summary : Summary) : Json :=
  .object
    [ ("reference_types", .natural summary.referenceTypes),
      ("target_types", .natural summary.targetTypes),
      ("matched", .natural summary.matched),
      ("matched_with_differences", .natural summary.matchedWithDifferences),
      ("unmatched_reference", .natural summary.unmatchedReference),
      ("unmatched_target", .natural summary.unmatchedTarget),
      ("ambiguous", .natural summary.ambiguous),
      ("reference_only_members", .natural summary.referenceOnlyMembers),
      ("target_only_members", .natural summary.targetOnlyMembers),
      ("declared_type_mismatches", .natural summary.declaredTypeMismatches),
      ("skipped_non_public", .natural summary.skippedNonPublic),
      ("excluded_target", .natural summary.excludedTarget),
      ("warnings", .natural summary.warnings) ]

def ofJson? (json : Json) : Option Summary := do
  let entries ←
    json.record?
      [ "reference_types", "target_types", "matched", "matched_with_differences",
        "unmatched_reference", "unmatched_target", "ambiguous", "reference_only_members",
        "target_only_members", "declared_type_mismatches", "skipped_non_public",
        "excluded_target", "warnings" ] []
  let referenceTypes ← Json.required? "reference_types" Json.count? entries
  let targetTypes ← Json.required? "target_types" Json.count? entries
  let matched ← Json.required? "matched" Json.count? entries
  let matchedWithDifferences ←
    Json.required? "matched_with_differences" Json.count? entries
  let unmatchedReference ← Json.required? "unmatched_reference" Json.count? entries
  let unmatchedTarget ← Json.required? "unmatched_target" Json.count? entries
  let ambiguous ← Json.required? "ambiguous" Json.count? entries
  let referenceOnlyMembers ← Json.required? "reference_only_members" Json.count? entries
  let targetOnlyMembers ← Json.required? "target_only_members" Json.count? entries
  let declaredTypeMismatches ← Json.required? "declared_type_mismatches" Json.count? entries
  let skippedNonPublic ← Json.required? "skipped_non_public" Json.count? entries
  let excludedTarget ← Json.required? "excluded_target" Json.count? entries
  let warnings ← Json.required? "warnings" Json.count? entries
  return {
    referenceTypes, targetTypes, matched, matchedWithDifferences, unmatchedReference,
    unmatchedTarget, ambiguous, referenceOnlyMembers, targetOnlyMembers,
    declaredTypeMismatches, skippedNonPublic, excludedTarget, warnings }

end Summary

namespace LibraryReport

def toEntries (report : LibraryReport) : List (String × Json) :=
  [("library", .string report.library)] ++
    Json.textEntry "reference_version" report.referenceVersion ++
    Json.textEntry "target_version" report.targetVersion ++
    [ ("summary", report.summary.toJson),
      ("unmatched_reference",
        .array (report.unmatchedReference.map UnmatchedEntry.toJson)),
      ("unmatched_target", .array (report.unmatchedTarget.map UnmatchedEntry.toJson)),
      ("matched", .array (report.matched.map PairEntry.toJson)),
      ("warnings", .array (report.warnings.map Warning.toJson)),
      ("excluded", report.excluded.toJson) ]

def toJson (report : LibraryReport) : Json :=
  .object report.toEntries

/-- The keys of a report in their order. -/
def keys : List String :=
  [ "library", "reference_version", "target_version", "summary", "unmatched_reference",
    "unmatched_target", "matched", "warnings", "excluded" ]

def ofEntries? (entries : List (String × Json)) : Option LibraryReport := do
  let library ← Json.required? "library" Json.text? entries
  let referenceVersion ← Json.optional? "reference_version" Json.text? entries
  let targetVersion ← Json.optional? "target_version" Json.text? entries
  let summary ← Json.required? "summary" Summary.ofJson? entries
  let unmatchedReference ←
    Json.required? "unmatched_reference" (Json.list? UnmatchedEntry.ofJson?) entries
  let unmatchedTarget ←
    Json.required? "unmatched_target" (Json.list? UnmatchedEntry.ofJson?) entries
  let matched ← Json.required? "matched" (Json.list? PairEntry.ofJson?) entries
  let warnings ← Json.required? "warnings" (Json.list? Warning.ofJson?) entries
  let excluded ← Json.required? "excluded" Excluded.ofJson? entries
  return {
    library, referenceVersion, targetVersion, summary, unmatchedReference, unmatchedTarget,
    matched, warnings, excluded }

end LibraryReport

namespace LibraryResult

def toJson : LibraryResult → Json
  | compared report => .object (("status", .string "compared") :: report.toEntries)
  | failed library error =>
    .object
      [ ("status", .string "failed"),
        ("library", .string library),
        ("error", .string error) ]

/-- What became of a library, read from a document.

The value is kept as a whole to find the tag, so it has to be readable also where nobody asks
for a part. -/
def ofJson? (json : Json) : Option LibraryResult := do
  guard json.isReadable
  let (status, part) ← json.tagged? "status" Json.text?
  match status with
  | "compared" =>
    let entries ← part.record? LibraryReport.keys []
    return .compared (← LibraryReport.ofEntries? entries)
  | "failed" =>
    let entries ← part.record? ["library", "error"] []
    let library ← Json.required? "library" Json.text? entries
    let error ← Json.required? "error" Json.text? entries
    return .failed library error
  | _ => none

end LibraryResult

namespace BatchReport

def toJson (report : BatchReport) : Json :=
  .object
    [ ("libraries", .array (report.libraries.map LibraryResult.toJson)),
      ("totals", report.totals.toJson),
      ("failed", .natural report.failed) ]

def ofJson? (json : Json) : Option BatchReport := do
  let entries ← json.record? ["libraries", "totals", "failed"] []
  let libraries ← Json.required? "libraries" (Json.list? LibraryResult.ofJson?) entries
  let totals ← Json.required? "totals" Summary.ofJson? entries
  let failed ← Json.required? "failed" Json.count? entries
  return { libraries, totals, failed }

end BatchReport

def Outcome.toJson : Outcome → Json
  | matched target reason =>
    .object
      [ ("result", .string "matched"),
        ("target", .string target),
        ("reason", reason.toJson) ]
  | ambiguous candidates =>
    .object [("result", .string "ambiguous"), ("candidates", Json.ofTexts candidates)]
  | unmatched => .object [("result", .string "unmatched")]

def RuleAccount.toJson (account : RuleAccount) : Json :=
  .object
    [ ("rule", .string account.rule.key),
      ("expected_name", Json.ofText? account.expectedName),
      ("candidates", Json.ofTexts account.candidates) ]

def Explanation.toJson (explanation : Explanation) : Json :=
  .object
    [ ("reference", .string explanation.reference),
      ("kind", .string explanation.kind.label),
      ("expected_namespace", .string explanation.targetNamespace),
      ("override_target", Json.ofText? explanation.overrideTarget),
      ("declared_equivalents", Json.ofTexts explanation.declaredEquivalents),
      ("rules", .array (explanation.rules.map RuleAccount.toJson)),
      ("outcome", explanation.outcome.toJson) ]

end Counterpart
