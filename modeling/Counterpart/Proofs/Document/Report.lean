import Counterpart.Document.Report
import Counterpart.Proofs.Document.Entries
import Counterpart.Proofs.Report.Batch

/-!
# Reports are read back from their documents

The parts of a report are read back one by one, up to what became of a library.  The tag of a
variant and the keys of a part that stands among others are told apart from all other keys.  Counts
are those a machine can hold.

* `Summary.Fits`, `LibraryResult.Fits`: the counts fit in 64 bits.
* `LibraryReport.ofEntries?_toEntries`, `LibraryResult.ofJson?_toJson`: reports read back.
* `BatchReport.ofOutcomes_libraries`: the libraries of a report make up the report.
* `reports_round_trip`: reports are read back and put together again.
-/

namespace Counterpart

theorem Rule.ofJson?_key
    (rule : Rule) :
    ofJson? (.string rule.key) = some rule :=
  ofKey?_key rule

theorem Member.Kind.ofJson?_label
    (kind : Member.Kind) :
    ofJson? (.string kind.label) = some kind :=
  ofLabel?_label kind

namespace Reason

theorem ofJson?_toJson
    (reason : Reason) :
    ofJson? reason.toJson = some reason := by
  cases reason <;> simp [ofJson?, toJson, Rule.ofJson?_key]

theorem fitsIn_toJson
    (reason : Reason) :
    Json.FitsIn 1 reason.toJson := by
  cases reason <;> simp [toJson]

end Reason

namespace Warning

theorem ofJson?_toJson
    (warning : Warning) :
    ofJson? warning.toJson = some warning := by
  cases warning <;> simp [ofJson?, toJson]

theorem fitsIn_toJson
    (warning : Warning) :
    Json.FitsIn 1 warning.toJson := by
  cases warning <;> simp [toJson]

end Warning

namespace MemberEntry

theorem ofJson?_toJson
    (entry : MemberEntry) :
    ofJson? entry.toJson = some entry := by
  simp [ofJson?, toJson, Member.Kind.ofJson?_label]

theorem fitsIn_toJson
    (entry : MemberEntry) :
    Json.FitsIn 2 entry.toJson := by
  simp [toJson]

end MemberEntry

namespace ValueTypeMismatch

theorem ofJson?_toJson
    (mismatch : ValueTypeMismatch) :
    ofJson? mismatch.toJson = some mismatch := by
  simp [ofJson?, toJson, Member.Kind.ofJson?_label]

theorem fitsIn_toJson
    (mismatch : ValueTypeMismatch) :
    Json.FitsIn 1 mismatch.toJson := by
  simp [toJson]

end ValueTypeMismatch

namespace MemberDifference

theorem ofJson?_toJson
    (difference : MemberDifference) :
    ofJson? difference.toJson = some difference := by
  simp [ofJson?, toJson, Json.list?_map, MemberEntry.ofJson?_toJson,
    ValueTypeMismatch.ofJson?_toJson]

theorem fitsIn_toJson
    (difference : MemberDifference) :
    Json.FitsIn 4 difference.toJson := by
  simp [toJson, MemberEntry.fitsIn_toJson,
    (ValueTypeMismatch.fitsIn_toJson _).mono (Nat.le_succ 1)]

end MemberDifference

namespace ModifierDifference

theorem ofJson?_toJson
    (mismatch : ModifierDifference) :
    ofJson? mismatch.toJson = some mismatch := by
  simp [ofJson?, toJson]

theorem fitsIn_toJson
    (mismatch : ModifierDifference) :
    Json.FitsIn 2 mismatch.toJson := by
  simp [toJson]

theorem toJson_ne_null
    (mismatch : ModifierDifference) :
    mismatch.toJson ≠ .null :=
  Json.noConfusion

end ModifierDifference

namespace BaseTypeDifference

theorem ofJson?_toJson
    (mismatch : BaseTypeDifference) :
    ofJson? mismatch.toJson = some mismatch := by
  simp [ofJson?, toJson]

theorem fitsIn_toJson
    (mismatch : BaseTypeDifference) :
    Json.FitsIn 1 mismatch.toJson := by
  simp [toJson]

theorem toJson_ne_null
    (mismatch : BaseTypeDifference) :
    mismatch.toJson ≠ .null :=
  Json.noConfusion

end BaseTypeDifference

namespace ContractDifference

theorem ofJson?_toJson
    (mismatch : ContractDifference) :
    ofJson? mismatch.toJson = some mismatch := by
  simp [ofJson?, toJson]

theorem fitsIn_toJson
    (mismatch : ContractDifference) :
    Json.FitsIn 2 mismatch.toJson := by
  simp [toJson]

theorem toJson_ne_null
    (mismatch : ContractDifference) :
    mismatch.toJson ≠ .null :=
  Json.noConfusion

end ContractDifference

namespace TypeDifference

theorem ofJson?_toJson
    (difference : TypeDifference) :
    ofJson? difference.toJson = some difference := by
  simp [ofJson?, toJson, MemberDifference.ofJson?_toJson,
    Json.orNull?_map ModifierDifference.ofJson?_toJson ModifierDifference.toJson_ne_null,
    Json.orNull?_map BaseTypeDifference.ofJson?_toJson BaseTypeDifference.toJson_ne_null,
    Json.orNull?_map ContractDifference.ofJson?_toJson ContractDifference.toJson_ne_null]

theorem fitsIn_toJson
    (difference : TypeDifference) :
    Json.FitsIn 5 difference.toJson := by
  simp [toJson, MemberDifference.fitsIn_toJson,
    (ModifierDifference.fitsIn_toJson _).mono (show 2 ≤ 4 by decide),
    (BaseTypeDifference.fitsIn_toJson _).mono (show 1 ≤ 4 by decide),
    (ContractDifference.fitsIn_toJson _).mono (show 2 ≤ 4 by decide)]

end TypeDifference

namespace TypeEntry

theorem kindOfJson?_label
    (kind : TypeDecl.Kind) :
    kindOfJson? (.string kind.label) = some kind :=
  TypeDecl.Kind.ofLabel?_label kind

theorem ofEntries?_toEntries
    (entry : TypeEntry) :
    ofEntries? entry.toEntries = some entry := by
  simp [ofEntries?, toEntries, kindOfJson?_label]

theorem valuesFitIn_toEntries
    (entry : TypeEntry) :
    Json.ValuesFitIn 1 entry.toEntries := by
  simp [toEntries]

theorem ofJson?_toJson
    (entry : TypeEntry) :
    ofJson? entry.toJson = some entry := by
  rw [ofJson?, toJson, Json.record?_object, Option.bind_some, ofEntries?_toEntries]

theorem fitsIn_toJson
    (entry : TypeEntry) :
    Json.FitsIn 2 entry.toJson := by
  simpa [toJson] using entry.valuesFitIn_toEntries

end TypeEntry

namespace UnmatchedEntry

theorem ofJson?_toJson
    (entry : UnmatchedEntry) :
    ofJson? entry.toJson = some entry := by
  simp [ofJson?, toJson, TypeEntry.ofEntries?, TypeEntry.toEntries, TypeEntry.kindOfJson?_label]

theorem fitsIn_toJson
    (entry : UnmatchedEntry) :
    Json.FitsIn 2 entry.toJson := by
  simp [toJson, TypeEntry.valuesFitIn_toEntries]

end UnmatchedEntry

namespace PairEntry

theorem ofJson?_toJson
    (pair : PairEntry) :
    ofJson? pair.toJson = some pair := by
  simp [ofJson?, toJson, TypeEntry.ofJson?_toJson, Reason.ofJson?_toJson,
    TypeDifference.ofJson?_toJson]

theorem fitsIn_toJson
    (pair : PairEntry) :
    Json.FitsIn 6 pair.toJson := by
  simp [toJson, TypeDifference.fitsIn_toJson,
    (TypeEntry.fitsIn_toJson _).mono (show 2 ≤ 5 by decide),
    (Reason.fitsIn_toJson _).mono (show 1 ≤ 5 by decide)]

end PairEntry

namespace Excluded

theorem ofJson?_toJson
    (excluded : Excluded) :
    ofJson? excluded.toJson = some excluded := by
  simp [ofJson?, toJson]

theorem fitsIn_toJson
    (excluded : Excluded) :
    Json.FitsIn 2 excluded.toJson := by
  simp [toJson]

end Excluded

namespace Summary

/-- The counts of a summary with their keys. -/
def fields : List (String × (Summary → Nat)) :=
  [ ("reference_types", referenceTypes),
    ("target_types", targetTypes),
    ("matched", matched),
    ("matched_with_differences", matchedWithDifferences),
    ("unmatched_reference", unmatchedReference),
    ("unmatched_target", unmatchedTarget),
    ("ambiguous", ambiguous),
    ("reference_only_members", referenceOnlyMembers),
    ("target_only_members", targetOnlyMembers),
    ("declared_type_mismatches", declaredTypeMismatches),
    ("skipped_non_public", skippedNonPublic),
    ("excluded_target", excludedTarget),
    ("warnings", warnings) ]

theorem map_snd_fields :
    fields.map Prod.snd = counts :=
  rfl

/-- The entries of the document of a summary. -/
def toEntries (summary : Summary) : List (String × Json) :=
  fields.map fun field => (field.1, .natural (field.2 summary))

theorem toJson_eq
    (summary : Summary) :
    summary.toJson = .object summary.toEntries :=
  rfl

/-- The counts are those a machine can hold. -/
def Fits (summary : Summary) : Prop :=
  ∀ count ∈ counts, count summary < 2 ^ 64

variable {summary : Summary}

theorem Fits.field_lt
    (h : summary.Fits) {field : String × (Summary → Nat)} (hfield : field ∈ fields) :
    field.2 summary < 2 ^ 64 :=
  h field.2 (map_snd_fields ▸ List.mem_map_of_mem hfield)

/-- Each count is found under its key. -/
theorem given_toEntries
    (summary : Summary) :
    ∀ field ∈ fields,
      Json.given [field.1] summary.toEntries = [(field.1, .natural (field.2 summary))] := by
  simp [fields, toEntries]

theorem Fits.required?_eq
    (h : summary.Fits) {field : String × (Summary → Nat)} (hfield : field ∈ fields) :
    Json.required? field.1 Json.count? summary.toEntries = some (field.2 summary) := by
  rw [Json.required?_eq, given_toEntries summary field hfield]
  exact Json.count?_natural (h.field_lt hfield)

theorem Fits.ofJson?_toJson
    (h : summary.Fits) :
    ofJson? summary.toJson = some summary := by
  have hread (key : String) (count : Summary → Nat) (hfield : (key, count) ∈ fields) :
      Json.required? key Json.count? summary.toEntries = some (count summary) :=
    h.required?_eq hfield
  rw [ofJson?, toJson_eq, Json.bind_of_eq_some (Json.record?_object _ _ _),
    Json.bind_of_eq_some (hread "reference_types" referenceTypes (by simp [fields])),
    Json.bind_of_eq_some (hread "target_types" targetTypes (by simp [fields])),
    Json.bind_of_eq_some (hread "matched" matched (by simp [fields])),
    Json.bind_of_eq_some
      (hread "matched_with_differences" matchedWithDifferences (by simp [fields])),
    Json.bind_of_eq_some (hread "unmatched_reference" unmatchedReference (by simp [fields])),
    Json.bind_of_eq_some (hread "unmatched_target" unmatchedTarget (by simp [fields])),
    Json.bind_of_eq_some (hread "ambiguous" ambiguous (by simp [fields])),
    Json.bind_of_eq_some (hread "reference_only_members" referenceOnlyMembers (by simp [fields])),
    Json.bind_of_eq_some (hread "target_only_members" targetOnlyMembers (by simp [fields])),
    Json.bind_of_eq_some
      (hread "declared_type_mismatches" declaredTypeMismatches (by simp [fields])),
    Json.bind_of_eq_some (hread "skipped_non_public" skippedNonPublic (by simp [fields])),
    Json.bind_of_eq_some (hread "excluded_target" excludedTarget (by simp [fields])),
    Json.bind_of_eq_some (hread "warnings" warnings (by simp [fields]))]
  rfl

theorem Fits.fitsIn_toJson
    (h : summary.Fits) :
    Json.FitsIn 1 summary.toJson := by
  rw [toJson_eq, Json.fitsIn_object]
  intro entry hentry
  obtain ⟨field, hfield, rfl⟩ := List.mem_map.mp hentry
  exact .natural (h.field_lt hfield)

end Summary

namespace LibraryReport

variable {report : LibraryReport}

theorem valuesFitIn_toEntries
    (h : report.summary.Fits) :
    Json.ValuesFitIn 7 report.toEntries := by
  simp [toEntries, PairEntry.fitsIn_toJson, h.fitsIn_toJson.mono (show 1 ≤ 7 by decide),
    (UnmatchedEntry.fitsIn_toJson _).mono (show 2 ≤ 6 by decide),
    (Warning.fitsIn_toJson _).mono (show 1 ≤ 6 by decide),
    (Excluded.fitsIn_toJson _).mono (show 2 ≤ 7 by decide)]

/-- The entries of a report are read back behind the tag of a result. -/
theorem ofEntries?_toEntries
    (h : report.summary.Fits) (status : Json) :
    ofEntries? (("status", status) :: report.toEntries) = some report := by
  simp [ofEntries?, toEntries, h.ofJson?_toJson, Json.list?_map, UnmatchedEntry.ofJson?_toJson,
    PairEntry.ofJson?_toJson, Warning.ofJson?_toJson, Excluded.ofJson?_toJson]

end LibraryReport

namespace LibraryResult

/-- The counts of the summary, if there is one, are those a machine can hold. -/
def Fits (result : LibraryResult) : Prop :=
  ∀ summary ∈ result.summary?, summary.Fits

variable {result : LibraryResult}

theorem Fits.fitsIn_toJson
    (h : result.Fits) :
    Json.FitsIn 8 result.toJson := by
  cases result with
  | failed library error =>
      simp [toJson]
  | compared report =>
      simpa [toJson] using report.valuesFitIn_toEntries (h _ rfl)

theorem Fits.ofJson?_toJson
    (h : result.Fits) :
    ofJson? result.toJson = some result := by
  have hreadable : result.toJson.isReadable = true := h.fitsIn_toJson.isReadable
  rw [ofJson?]
  refine (Json.bind_of_eq_some (if_pos hreadable) _).trans ?_
  cases result with
  | failed library error =>
      simp [toJson]
  | compared report =>
      have hfits : report.summary.Fits := h _ rfl
      have hstatus :
          Json.tagged? "status" Json.text?
              (.object (("status", .string "compared") :: report.toEntries)) =
            some ("compared", .object (("status", .string "compared") :: report.toEntries)) := by
        simp [LibraryReport.toEntries]
      rw [toJson, Json.bind_of_eq_some hstatus]
      exact Json.bind_of_eq_some (report.ofEntries?_toEntries hfits _) _

/-- What became of a library, as its document says. -/
def read? (text : String) : Option LibraryResult :=
  (Json.read? text).bind ofJson?

theorem Fits.read?_eq
    (h : result.Fits) {text : String} (htext : text ∈ result.toJson.texts) :
    read? text = some result := by
  rw [read?, h.fitsIn_toJson.read?_of_mem_texts (by decide) htext, Option.bind_some,
    h.ofJson?_toJson]

/-- Results are read back one by one, each from one of its texts. -/
theorem mapM_read?_eq
    {results : List LibraryResult} {texts : List String} (h : ∀ result ∈ results, result.Fits)
    (htexts : List.Forall₂ (fun result text => text ∈ result.toJson.texts) results texts) :
    texts.mapM read? = some results := by
  induction htexts with
  | nil =>
      rfl
  | cons htext _ ih =>
      obtain ⟨hfirst, hrest⟩ := List.forall_mem_cons.mp h
      simp [hfirst.read?_eq htext, ih hrest]

end LibraryResult

namespace BatchReport

/-- The libraries of a report are in order, and its counts are theirs. -/
theorem ofOutcomes_libraries
    (outcomes : List LibraryResult) :
    ofOutcomes (ofOutcomes outcomes).libraries = ofOutcomes outcomes := by
  have hsorted :
      ((ofOutcomes outcomes).libraries.mergeSort fun a b =>
          (compare a.library b.library).isLE) =
        (ofOutcomes outcomes).libraries :=
    List.mergeSort_of_pairwise (pairwise_mergeSort (compareOn LibraryResult.library) outcomes)
  rw [ofOutcomes, hsorted]
  rfl

theorem ofOutcomes_eq_of_perm
    {outcomes others : List LibraryResult} (distinct : (outcomes.map LibraryResult.library).Nodup)
    (h : others.Perm outcomes) :
    ofOutcomes others = ofOutcomes outcomes := by
  have hreport :=
    (@isolates_ofOutcomes _ LibraryResult.library id fun _ => rfl).unordered outcomes others
      distinct h
  simpa using hreport

end BatchReport

/-- What became of a library is read back from its document.  A report is the report on its own
libraries, also after each of them has been written and read; and libraries with distinct names
make up the same report in any order. -/
theorem reports_round_trip :
    (∀ result : LibraryResult, result.Fits →
        ∀ text ∈ result.toJson.texts, LibraryResult.read? text = some result) ∧
      (∀ outcomes : List LibraryResult,
        BatchReport.ofOutcomes (BatchReport.ofOutcomes outcomes).libraries =
            BatchReport.ofOutcomes outcomes ∧
          ((∀ result ∈ outcomes, result.Fits) →
            ∀ texts,
              List.Forall₂ (fun result text => text ∈ result.toJson.texts)
                  (BatchReport.ofOutcomes outcomes).libraries texts →
                (texts.mapM LibraryResult.read?).map BatchReport.ofOutcomes =
                  some (BatchReport.ofOutcomes outcomes))) ∧
      ∀ outcomes others : List LibraryResult,
        (outcomes.map LibraryResult.library).Nodup → others.Perm outcomes →
          BatchReport.ofOutcomes others = BatchReport.ofOutcomes outcomes := by
  refine ⟨fun result hfits text htext => hfits.read?_eq htext, fun outcomes => ⟨?_, ?_⟩,
    fun outcomes others => BatchReport.ofOutcomes_eq_of_perm⟩
  · exact BatchReport.ofOutcomes_libraries outcomes
  · intro hfits texts htexts
    have hlibraries : ∀ result ∈ (BatchReport.ofOutcomes outcomes).libraries, result.Fits :=
      fun result hresult =>
        hfits result ((BatchReport.libraries_perm outcomes).mem_iff.mp hresult)
    rw [LibraryResult.mapM_read?_eq hlibraries htexts, Option.map_some,
      BatchReport.ofOutcomes_libraries]

/-- A library that failed, and one with a pair that differs and an ambiguity. -/
def recordedResults : List LibraryResult :=
  [ .failed "widgets" "no such file",
    .compared
      { library := "core"
        targetVersion := some "2"
        summary := { referenceTypes := 2, targetTypes := 1, matched := 1, ambiguous := 1 }
        unmatchedReference := [⟨⟨.enumType, "a.Mode", "Mode", ["public"]⟩, ["A.Mode", "B.Mode"]⟩]
        matched :=
          [ { reference := ⟨.classType, "a.One", "One", ["public"]⟩
              target := ⟨.structType, "A.One", "One", ["public", "sealed"]⟩
              reason := .heuristic .exactName
              difference :=
                { modifiers := some ⟨["public"], ["public", "sealed"]⟩
                  baseType := some ⟨some "a.Base", none⟩
                  contracts := none
                  members :=
                    { referenceOnly := [⟨.method, "add", "add(int)", ["public"], true⟩]
                      targetOnly := []
                      mismatches := [⟨.field, "count", "Count", "int", "long"⟩] } } } ]
        warnings := [.targetTaken "a.Two" "A.One" "a.One"]
        excluded := ⟨["a.Hidden"], []⟩ } ]

theorem recordedResults_fit :
    ∀ result ∈ recordedResults, result.Fits := by
  simp [recordedResults, LibraryResult.Fits, LibraryResult.summary?, Summary.Fits, Summary.counts]

theorem reports_round_trip_recorded :
    (recordedResults.map fun result => LibraryResult.read? result.toJson.compact) =
        recordedResults.map some ∧
      BatchReport.ofOutcomes recordedResults.reverse = BatchReport.ofOutcomes recordedResults := by
  obtain ⟨hread, _, hperm⟩ := reports_round_trip
  refine ⟨List.map_congr_left fun result hresult => ?_, ?_⟩
  · exact hread result (recordedResults_fit result hresult) _ List.mem_cons_self
  · exact hperm recordedResults _ (by decide) (List.reverse_perm _)

end Counterpart
