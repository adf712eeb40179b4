import Counterpart.Proofs.Difference.Bare
import Counterpart.Proofs.Matching.Schedule

/-!
# Reports are complete

A report lists every type of either document once: in a pair, left over, or set aside.  Selecting
the types, matching them, comparing the pairs and sorting the lists lose none and repeat none, so
the counts of a report add up to the sizes of the documents, and a report without divergence has
nothing left over and no pair that differs.

* `names_perm`: the lists of a report about one side, in terms of the types of that side.
* `report_complete`: every report that a comparison gives is complete.
-/

namespace Counterpart

namespace Scope

/-- The reference types of a scope are those of the pairs and the left-over ones. -/
theorem references_matching_perm
    (scope : Scope) :
    (scope.matching.matched.map Pairing.reference ++
      scope.matching.unmatchedReference.map Unmatched.decl).Perm scope.reference := by
  simpa [matching, Pool.references, Pool.unmatchedReference, Function.comp_def]
    using scope.reached_settled.references_perm

/-- The target types of a scope are those of the pairs and the left-over ones. -/
theorem targets_matching_perm
    (scope : Scope) :
    (scope.matching.matched.map Pairing.target ++
      scope.matching.unmatchedTarget.map Unmatched.decl).Perm scope.target := by
  simpa [matching, Pool.targets, Pool.unmatchedTarget, Function.comp_def]
    using scope.reached_settled.targets_perm

/-- The entry of a pair shows the full names of its types. -/
theorem fullName_of_pairEntry_eq_ok
    {scope : Scope} {pairing : Pairing} {entry : PairEntry}
    (h : scope.pairEntry pairing = .ok entry) :
    entry.reference.fullName = pairing.reference.fullName ∧
      entry.target.fullName = pairing.target.fullName := by
  obtain ⟨_, _, rfl⟩ := exists_difference_of_pairEntry_eq_ok h
  exact ⟨rfl, rfl⟩

end Scope

namespace LibraryReport

/-- The full names that a report lists for one side are those of the document: the names in the
pairs, of the types left over, and of the types set aside. -/
theorem names_perm
    {types : List TypeDecl} {selected excluded : TypeDecl → Bool}
    (complement : ∀ decl, excluded decl = !selected decl)
    {matched : List Pairing} {unmatched : List Unmatched} {decl : Pairing → TypeDecl}
    (divided :
      (matched.map decl ++ unmatched.map Unmatched.decl).Perm (types.filter selected))
    {pairs : List PairEntry} {name : PairEntry → String}
    (shown : pairs.map name = matched.map fun pairing => (decl pairing).fullName)
    (side : Side) :
    ((PairEntry.sort pairs).map name ++
        (UnmatchedEntry.sort (unmatched.map (.ofUnmatched side))).map (·.type.fullName) ++
        Selection.ofSurfaces.namesOf (types.filter excluded)).Perm
      (types.map TypeDecl.fullName) := by
  have hpairs :
      ((PairEntry.sort pairs).map name).Perm ((matched.map decl).map TypeDecl.fullName) := by
    rw [List.map_map]
    exact ((List.mergeSort_perm pairs _).map name).trans (List.Perm.of_eq shown)
  have hunmatched :
      ((UnmatchedEntry.sort (unmatched.map (.ofUnmatched side))).map (·.type.fullName)).Perm
        ((unmatched.map Unmatched.decl).map TypeDecl.fullName) := by
    refine ((List.mergeSort_perm _ _).map _).trans (List.Perm.of_eq ?_)
    simp [UnmatchedEntry.ofUnmatched, TypeDecl.entry]
  have hexcluded :
      (Selection.ofSurfaces.namesOf (types.filter excluded)).Perm
        ((types.filter fun decl => !selected decl).map TypeDecl.fullName) := by
    rw [← funext complement]
    exact List.mergeSort_perm _ _
  refine ((hpairs.append hunmatched).append hexcluded).trans ?_
  rw [← List.map_append]
  refine ((divided.map TypeDecl.fullName).append_right _).trans ?_
  rw [← List.map_append]
  exact (List.filter_append_perm selected types).map TypeDecl.fullName

/-- A report accounts for all types of the two documents. -/
structure Complete (report : LibraryReport) (reference target : Surface) : Prop where
  references :
    (report.matched.map (·.reference.fullName) ++
        report.unmatchedReference.map (·.type.fullName) ++
        report.excluded.nonPublicReference).Perm
      (reference.types.map TypeDecl.fullName)
  targets :
    (report.matched.map (·.target.fullName) ++
        report.unmatchedTarget.map (·.type.fullName) ++
        report.excluded.withoutReference).Perm
      (target.types.map TypeDecl.fullName)
  referenceTypes :
    report.summary.referenceTypes + report.summary.skippedNonPublic = reference.types.length
  targetTypes :
    report.summary.targetTypes + report.summary.excludedTarget = target.types.length
  ambiguous :
    report.summary.ambiguous =
      report.unmatchedReference.countP fun entry => !entry.candidates.isEmpty
  diverges :
    report.summary.diverges = false ↔
      report.unmatchedReference = [] ∧
        report.unmatchedTarget = [] ∧
        ∀ pair ∈ report.matched, pair.difference.isClean = true

/-- Sorting the entries does not hide a difference. -/
theorem diverges_assembled_iff
    (name : String) (reference target : Surface) (matching : Matching) (pairs : List PairEntry) :
    (assembled name reference target matching pairs).summary.diverges = false ↔
      (assembled name reference target matching pairs).unmatchedReference = [] ∧
        (assembled name reference target matching pairs).unmatchedTarget = [] ∧
        ∀ pair ∈ (assembled name reference target matching pairs).matched,
          pair.difference.isClean = true := by
  rw [diverges_assembled_eq_false_iff]
  simp only [assembled, UnmatchedEntry.sort_eq_nil_iff, List.map_eq_nil_iff, PairEntry.sort,
    List.mem_mergeSort]
  tauto

end LibraryReport

/-- Every report that a comparison gives is complete. -/
theorem report_complete
    {name : String} {reference target : Surface} {settings : Settings} {report : LibraryReport}
    (h : LibraryReport.ofSurfaces name reference target settings = .ok report) :
    report.Complete reference target := by
  obtain ⟨pairs, hpairs, rfl⟩ := LibraryReport.exists_pairs_of_ofSurfaces_eq_ok h
  have references :=
    LibraryReport.names_perm (fun _ => rfl)
      (Scope.between reference target settings).references_matching_perm
      (map_eq_of_mapM_eq_ok hpairs fun _ _ hentry =>
        (Scope.fullName_of_pairEntry_eq_ok hentry).1)
      .reference
  have targets :=
    LibraryReport.names_perm (fun decl => (Bool.not_not decl.withoutReference).symm)
      (Scope.between reference target settings).targets_matching_perm
      (map_eq_of_mapM_eq_ok hpairs fun _ _ hentry =>
        (Scope.fullName_of_pairEntry_eq_ok hentry).2)
      .target
  -- The counts of the summary are the lengths of the lists.
  have referenceTypes := references.length_eq
  have targetTypes := targets.length_eq
  simp only [List.length_append, List.length_map] at referenceTypes targetTypes
  exact ⟨references, targets, referenceTypes, targetTypes, rfl,
    LibraryReport.diverges_assembled_iff ..⟩

section Survey

/-- The reference types of the sample scope, and one that is not public. -/
def surveyReference : Surface :=
  { library := "reference"
    types :=
      { TypeDecl.named .reference .classType "a.Hidden" with modifiers := [] } ::
        Scope.sample.reference }

/-- The target types of the sample scope, and one that is meant to have no counterpart. -/
def surveyTarget : Surface :=
  { library := "target"
    types :=
      { TypeDecl.named .target .classType "A.Extra" with withoutReference := true } ::
        Scope.sample.target }

theorem between_survey :
    Scope.between surveyReference surveyTarget Scope.sample.settings = Scope.sample := by
  have hreference : surveyReference.types.filter TypeDecl.isPublic = Scope.sample.reference := by
    decide +kernel
  have htarget :
      (surveyTarget.types.filter fun decl => !decl.withoutReference) = Scope.sample.target := by
    decide +kernel
  rw [Scope.between, Selection.scope, Selection.ofSurfaces, hreference, htarget]

theorem bare_of_mem_matched_sample
    {pairing : Pairing} (h : pairing ∈ Scope.sample.matching.matched) :
    pairing.reference.Bare ∧ pairing.target.Bare := by
  obtain ⟨hreference, htarget⟩ := Scope.sample.reached_settled.mem_of_mem_pairs h
  constructor
  · obtain ⟨name, _, hname⟩ := List.mem_map.mp hreference
    rw [← hname]
    exact TypeDecl.bare_named ..
  · rcases List.mem_cons.mp htarget with hbound | htarget
    · rw [hbound]
      exact ⟨rfl, rfl, rfl⟩
    · obtain ⟨name, _, hname⟩ := List.mem_map.mp htarget
      rw [← hname]
      exact TypeDecl.bare_named ..

theorem report_complete_survey :
    ∃ report,
      LibraryReport.ofSurfaces "survey" surveyReference surveyTarget Scope.sample.settings =
          .ok report ∧
        report.Complete surveyReference surveyTarget := by
  obtain ⟨report, hreport⟩ :=
    exists_report_of_bare "survey" fun pairing hpairing => by
      rw [between_survey] at hpairing
      exact bare_of_mem_matched_sample hpairing
  exact ⟨report, hreport, report_complete hreport⟩

end Survey

end Counterpart
