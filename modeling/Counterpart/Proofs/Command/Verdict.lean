import Counterpart.Proofs.Report.Batch

/-!
# The verdict of a command that checks

A command that checks succeeds if what it compares agrees.  The verdict on a batch is read off sums
and a number of failures, and it is the same as if each library were compared and checked alone.
Checking adds a verdict after the report is printed, so it does not change what is printed.

* `LibraryPlan.Agrees`: both documents of a library can be used, and nothing is to be reconciled.
* `BatchReport.agrees_iff`, `DiffRequest.succeeds_iff`, `BatchRequest.succeeds_iff`: what the
  verdicts of both commands say.
* `check_verdicts_agree`: they say the same, and the output does not depend on them.
-/

namespace Counterpart

@[simp] theorem Transcript.exitCode_eq_zero_iff
    {transcript : Transcript} :
    transcript.exitCode = 0 ↔ transcript.failure = none := by
  unfold exitCode
  cases transcript.failure <;> simp

/-- A library was compared, and nothing is to be reconciled. -/
def LibraryResult.Agrees (result : LibraryResult) : Prop :=
  ∃ report, result = .compared report ∧ report.summary.diverges = false

theorem LibraryResult.agrees_iff
    {result : LibraryResult} :
    result.Agrees ↔
      result.isFailed = false ∧
        ∀ summary, result.summary? = some summary → summary.diverges = false := by
  cases result <;> simp [Agrees, isFailed, summary?]

/-- The sums and the number of failures are about every library. -/
theorem BatchReport.agrees_iff
    (outcomes : List LibraryResult) :
    ((ofOutcomes outcomes).failed = 0 ∧ (ofOutcomes outcomes).totals.diverges = false) ↔
      ∀ result ∈ outcomes, result.Agrees := by
  have hfailed :
      (ofOutcomes outcomes).failed = 0 ↔ ∀ result ∈ outcomes, result.isFailed = false := by
    rw [failed_ofOutcomes, List.countP_eq_zero]
    simp
  have htotals :
      (ofOutcomes outcomes).totals.diverges = false ↔
        ∀ result ∈ outcomes, ∀ summary,
          result.summary? = some summary → summary.diverges = false := by
    have hsum :
        (ofOutcomes outcomes).totals =
          .sum ((ofOutcomes outcomes).libraries.filterMap LibraryResult.summary?) := rfl
    rw [hsum, Summary.diverges_sum, List.any_eq_false]
    simp only [List.mem_filterMap, (libraries_perm outcomes).mem_iff, Bool.not_eq_true]
    exact ⟨fun h result hresult summary hsummary => h summary ⟨result, hresult, hsummary⟩,
      fun h summary ⟨result, hresult, hsummary⟩ => h result hresult summary hsummary⟩
  simp only [hfailed, htotals, LibraryResult.agrees_iff, ← forall₂_and]

/-- Both documents of a library can be used, and comparing them leaves nothing to reconcile. -/
def LibraryPlan.Agrees (files : Files) (settings : Settings) (plan : LibraryPlan) : Prop :=
  ∃ reference target report,
    files.surface .reference plan.reference = .ok reference ∧
      files.surface .target plan.target = .ok target ∧
      LibraryReport.ofSurfaces plan.name reference target settings = .ok report ∧
      report.summary.diverges = false

/-- The outcome of a library of a batch tells whether it agrees. -/
theorem LibraryPlan.agrees_iff
    {files : Files} {settings : Settings} {plan : LibraryPlan} :
    plan.Agrees files settings ↔ (BatchRequest.outcome files settings plan).Agrees := by
  unfold Agrees LibraryResult.Agrees BatchRequest.outcome
  cases files.surface .reference plan.reference with
  | error error =>
      simp
  | ok reference =>
      cases files.surface .target plan.target with
      | error error =>
          simp
      | ok target =>
          simp only [LibrarySurfaces.outcome, Except.ok.injEq, exists_and_left, exists_eq_left']
          cases LibraryReport.ofSurfaces plan.name reference target settings <;> simp

/-- The name of a library is shown in its report, and changes nothing else. -/
theorem LibraryReport.ofSurfaces_of_name
    (name other : String) (reference target : Surface) (settings : Settings) :
    ofSurfaces other reference target settings =
      (ofSurfaces name reference target settings).map fun report =>
        { report with library := other } := by
  rw [ofSurfaces_eq, ofSurfaces_eq]
  cases (Scope.between reference target settings).matching.matched.mapM
    (Scope.between reference target settings).pairEntry <;> rfl

namespace DiffRequest

variable {files : Files} {request : DiffRequest}

theorem load_eq_ok_iff
    {settings : Settings} {reference target : Surface} :
    request.load files = .ok (settings, reference, target) ↔
      files.settings request.settings = .ok settings ∧
        files.surface .reference request.reference = .ok reference ∧
        files.surface .target request.target = .ok target := by
  unfold load
  cases files.settings request.settings <;>
    cases files.surface .reference request.reference <;>
    cases files.surface .target request.target <;>
    simp [failingWith, bind, Except.bind, pure, Except.pure]

theorem failure_run_eq_none_iff
    (format : Format) (verbose : Bool) :
    (request.run files format verbose).failure = none ↔
      ∃ settings reference target report,
        request.load files = .ok (settings, reference, target) ∧
          LibraryReport.ofSurfaces (request.reportName reference) reference target settings =
            .ok report ∧
          request.verdict report = none := by
  unfold run
  cases request.load files with
  | error message =>
      simp [Except.map, Transcript.ofExcept, Transcript.fail]
  | ok loaded =>
      obtain ⟨settings, reference, target⟩ := loaded
      cases hreport :
          LibraryReport.ofSurfaces (request.reportName reference) reference target settings <;>
        simp [Except.map, Transcript.ofExcept, hreport]

/-- A comparison that checks succeeds exactly if its library agrees, whatever it is called. -/
theorem succeeds_iff
    (files : Files) (request : DiffRequest) (format : Format) (verbose : Bool) (name : String) :
    ({ request with check := true }.run files format verbose).exitCode = 0 ↔
      ∃ settings,
        files.settings request.settings = .ok settings ∧
          LibraryPlan.Agrees files settings ⟨name, request.reference, request.target⟩ := by
  have hverdict (report : LibraryReport) :
      { request with check := true }.verdict report = none ↔ report.summary.diverges = false := by
    simp [verdict]
  -- The report under the name that was asked for has the same summary.
  have hname (reference target : Surface) (settings : Settings) :
      (∃ report,
          LibraryReport.ofSurfaces (request.reportName reference) reference target settings =
              .ok report ∧
            report.summary.diverges = false) ↔
        ∃ report,
          LibraryReport.ofSurfaces name reference target settings = .ok report ∧
            report.summary.diverges = false := by
    rw [LibraryReport.ofSurfaces_of_name name (request.reportName reference)]
    cases LibraryReport.ofSurfaces name reference target settings <;> simp [Except.map]
  rw [Transcript.exitCode_eq_zero_iff, failure_run_eq_none_iff]
  simp only [hverdict, load_eq_ok_iff, LibraryPlan.Agrees]
  constructor
  · rintro ⟨settings, reference, target, report, ⟨hsettings, hloaded⟩, hreport, hclean⟩
    obtain ⟨named, hnamed⟩ := (hname reference target settings).mp ⟨report, hreport, hclean⟩
    exact ⟨settings, hsettings, reference, target, named, hloaded.1, hloaded.2, hnamed⟩
  · rintro ⟨settings, hsettings, reference, target, named, hreference, htarget, hnamed⟩
    obtain ⟨report, hreport⟩ := (hname reference target settings).mpr ⟨named, hnamed⟩
    exact ⟨settings, reference, target, report, ⟨hsettings, hreference, htarget⟩, hreport⟩

theorem output_checking
    (files : Files) (request : DiffRequest) (format : Format) (verbose check : Bool) :
    ({ request with check }.run files format verbose).output =
      (request.run files format verbose).output := by
  have hload : { request with check }.load files = request.load files := rfl
  unfold run
  rw [hload]
  cases request.load files with
  | error message =>
      rfl
  | ok loaded =>
      obtain ⟨settings, reference, target⟩ := loaded
      have hname : { request with check }.reportName reference = request.reportName reference := rfl
      simp only [Except.map, hname]
      cases LibraryReport.ofSurfaces (request.reportName reference) reference target settings <;>
        rfl

end DiffRequest

namespace BatchRequest

/-- A batch that checks succeeds exactly if libraries are selected and all of them agree. -/
theorem succeeds_iff
    (files : Files) (request : BatchRequest) (format : Format) (verbose : Bool) :
    ({ request with check := true }.run files format verbose).exitCode = 0 ↔
      ∃ project,
        files.project request.settings = .ok project ∧
          request.selected project ≠ [] ∧
          ∀ plan ∈ request.selected project, plan.Agrees files project.settings := by
  have hverdict (report : BatchReport) :
      { request with check := true }.verdict report = none ↔
        report.failed = 0 ∧ report.totals.diverges = false := by
    simp [verdict]
  have hselected (project : Project) :
      { request with check := true }.selected project = request.selected project :=
    rfl
  rw [Transcript.exitCode_eq_zero_iff]
  unfold run
  cases files.project request.settings with
  | error error =>
      simp [Transcript.fail]
  | ok project =>
      simp only [hselected, Except.ok.injEq, exists_eq_left']
      generalize request.selected project = plans
      cases plans with
      | nil =>
          simp [Transcript.fail]
      | cons first rest =>
          simp only [List.isEmpty_cons, Bool.false_eq_true, if_false, hverdict, report,
            BatchReport.agrees_iff, List.forall_mem_map, LibraryPlan.agrees_iff, ne_eq,
            List.cons_ne_nil, not_false_eq_true, true_and]

theorem output_checking
    (files : Files) (request : BatchRequest) (format : Format) (verbose check : Bool) :
    ({ request with check }.run files format verbose).output =
      (request.run files format verbose).output := by
  have hselected (project : Project) :
      { request with check }.selected project = request.selected project :=
    rfl
  unfold run
  cases files.project request.settings with
  | error error =>
      rfl
  | ok project =>
      simp only [hselected]
      split <;> rfl

end BatchRequest

/-- The task with a verdict at its end, or without; an explanation has none. -/
def Task.checking (check : Bool) : Task → Task
  | .diff request => .diff { request with check }
  | .batch request => .batch { request with check }
  | .explain request => .explain request

/-- The comparison of a library of a batch by itself, under a name of its own if one is given. -/
def LibraryPlan.alone (settings : String) (library : Option String) (plan : LibraryPlan) : Task :=
  .diff { reference := plan.reference, target := plan.target, settings := some settings, library }

/-- The verdict does not show in the output. -/
theorem Invocation.output_checking
    (files : Files) (invocation : Invocation) (check : Bool) :
    ({ invocation with task := invocation.task.checking check }.run files).output =
      (invocation.run files).output := by
  obtain ⟨task, format, verbose⟩ := invocation
  cases task with
  | explain request =>
      rfl
  | batch request =>
      exact request.output_checking files format verbose check
  | diff request =>
      exact request.output_checking files format verbose check

/-- A batch that checks succeeds exactly if libraries are selected and all of them agree, which is
if each of them passes when it is compared and checked alone.  Checking leaves the output as it
is. -/
theorem check_verdicts_agree
    (files : Files) :
    (∀ (request : BatchRequest) (format : Format) (verbose : Bool),
        (Invocation.run files ⟨(Task.batch request).checking true, format, verbose⟩).exitCode = 0 ↔
          ∃ project,
            files.project request.settings = .ok project ∧
              request.selected project ≠ [] ∧
              ∀ plan ∈ request.selected project, plan.Agrees files project.settings) ∧
      (∀ (request : BatchRequest) (library : LibraryPlan → Option String)
          (format format' : Format) (verbose verbose' : Bool),
        (Invocation.run files ⟨(Task.batch request).checking true, format, verbose⟩).exitCode = 0 ↔
          ∃ project,
            files.project request.settings = .ok project ∧
              request.selected project ≠ [] ∧
              ∀ plan ∈ request.selected project,
                (Invocation.run files
                    ⟨(plan.alone request.settings (library plan)).checking true, format',
                      verbose'⟩).exitCode = 0) ∧
      ∀ (invocation : Invocation) (check : Bool),
        ({ invocation with task := invocation.task.checking check }.run files).output =
          (invocation.run files).output := by
  refine ⟨BatchRequest.succeeds_iff files, ?_, Invocation.output_checking files⟩
  intro request library format format' verbose verbose'
  refine (request.succeeds_iff files format verbose).trans ?_
  refine exists_congr fun project => and_congr_right fun hproject => and_congr_right fun _ =>
    forall₂_congr fun plan _ => ?_
  have hsettings : files.settings (some request.settings) = .ok project.settings := by
    rw [Files.settings, hproject]
    rfl
  refine Iff.trans ?_ (DiffRequest.succeeds_iff files _ format' verbose' plan.name).symm
  simp only [hsettings, Except.ok.injEq, exists_eq_left']

end Counterpart
