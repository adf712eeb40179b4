import Counterpart.Proofs.Difference.Bare
import Counterpart.Proofs.Matching.Heeded
import Counterpart.Proofs.Matching.Schedule
import Counterpart.Proofs.Report.Assembly

/-!
# Reports without the overrides that were refused

Removing the overrides that were refused leaves the matching as it is, and a comparison that fails
still fails in the same way.  The differences of the pairs stay the same if all warnings are inert.
They may not if a warning is about the first override of a type of the scope: the type is then
matched without the override, but as a base type, contract, parameter or declared type it still
corresponds to nothing but the target that the override names.

* `report_without_refused_overrides`: what is kept.
* `refused_override_counts_in_report`: a refused override that makes a difference.
-/

namespace Counterpart

/-- A report without the warnings about overrides. -/
def LibraryReport.withoutWarnings (report : LibraryReport) : LibraryReport :=
  { report with
    summary := { report.summary with warnings := 0 }
    warnings := [] }

/-- The settings with only the overrides that apply to two surfaces. -/
def Settings.heeding (settings : Settings) (reference target : Surface) : Settings :=
  { settings with overrides := (Scope.between reference target settings).heeded }

theorem matching_between_heeding
    (reference target : Surface) (settings : Settings) :
    (Scope.between reference target (settings.heeding reference target)).matching =
      { (Scope.between reference target settings).matching with warnings := [] } :=
  (Scope.between reference target settings).matching_heeding

/-- Without the overrides that were refused, the matching only loses its warnings, and the
comparison fails in the same way or not at all.  The report stays the same if every warning is
about an override that is not the first of its reference type or whose reference type is not
compared. -/
theorem report_without_refused_overrides
    (name : String) (reference target : Surface) (settings : Settings) :
    (Scope.between reference target (settings.heeding reference target)).matching =
        { (Scope.between reference target settings).matching with warnings := [] } ∧
      (∀ error,
        LibraryReport.ofSurfaces name reference target (settings.heeding reference target) =
            .error error ↔
          LibraryReport.ofSurfaces name reference target settings = .error error) ∧
      ((∀ warning ∈ (Scope.between reference target settings).matching.warnings,
          warning.isInert = true) →
        LibraryReport.ofSurfaces name reference target (settings.heeding reference target) =
          (LibraryReport.ofSurfaces name reference target settings).map
            LibraryReport.withoutWarnings) := by
  have hmatching := matching_between_heeding reference target settings
  refine ⟨hmatching, ?_, ?_⟩
  · intro error
    rw [LibraryReport.ofSurfaces_eq_error_iff, LibraryReport.ofSurfaces_eq_error_iff, hmatching]
  · intro inert
    have hentry :
        (Scope.between reference target (settings.heeding reference target)).pairEntry =
          (Scope.between reference target settings).pairEntry :=
      Scope.pairEntry_eq_of_difference (Scope.alike_heeding inert).difference_eq
    rw [LibraryReport.ofSurfaces_eq, LibraryReport.ofSurfaces_eq, hmatching, hentry]
    cases (Scope.between reference target settings).matching.matched.mapM
      (Scope.between reference target settings).pairEntry <;> rfl

theorem report_without_refused_overrides_repeated_alpha :
    LibraryReport.ofSurfaces "sample"
        { library := "reference", types := Scope.sample.reference }
        { library := "target", types := Scope.sample.target }
        (Scope.sample.settings.heeding
          { library := "reference", types := Scope.sample.reference }
          { library := "target", types := Scope.sample.target }) =
      (LibraryReport.ofSurfaces "sample"
        { library := "reference", types := Scope.sample.reference }
        { library := "target", types := Scope.sample.target } Scope.sample.settings).map
          LibraryReport.withoutWarnings := by
  refine (report_without_refused_overrides _ _ _ _).2.2 ?_
  rw [Scope.matching, Scope.overridden,
    Pool.ofTypes_of_ordered (by decide +kernel) (by decide +kernel)]
  decide +kernel

section Refused

/-- Two classes, the second derived from the first. -/
def derivedReference : Surface :=
  { library := "reference"
    types :=
      [.named .reference .classType "a.One",
        { TypeDecl.named .reference .classType "a.Two" with baseType := some "a.One" }] }

/-- The counterparts of the two classes. -/
def derivedTarget : Surface :=
  { library := "target"
    types :=
      [.named .target .classType "A.One",
        { TypeDecl.named .target .classType "A.Two" with baseType := some "A.One" }] }

/-- An override of the first class that names a target type that does not exist. -/
def refusedSettings : Settings :=
  { overrides := [⟨"a.One", "A.Missing", none⟩] }

theorem matched_refused :
    (Scope.between derivedReference derivedTarget refusedSettings).matching.matched =
      [⟨.named .reference .classType "a.One", .named .target .classType "A.One",
          .heuristic .exactName⟩,
        ⟨{ TypeDecl.named .reference .classType "a.Two" with baseType := some "a.One" },
          { TypeDecl.named .target .classType "A.Two" with baseType := some "A.One" },
          .heuristic .exactName⟩] := by
  rw [Scope.matching, Scope.settled, Scope.overridden,
    Pool.ofTypes_of_ordered (by decide +kernel) (by decide +kernel)]
  decide +kernel

theorem heeding_refused :
    refusedSettings.heeding derivedReference derivedTarget = {} := by
  have hheeded : (Scope.between derivedReference derivedTarget refusedSettings).heeded = [] := by
    rw [Scope.heeded, Pool.ofTypes_of_ordered (by decide +kernel) (by decide +kernel)]
    decide +kernel
  rw [Settings.heeding, hheeded]
  rfl

theorem bare_of_mem_refused
    {pairing : Pairing}
    (h : pairing ∈
      (Scope.between derivedReference derivedTarget refusedSettings).matching.matched) :
    pairing.reference.Bare ∧ pairing.target.Bare := by
  rw [matched_refused, List.mem_pair] at h
  rcases h with rfl | rfl
  · exact ⟨TypeDecl.bare_named .., TypeDecl.bare_named ..⟩
  · exact ⟨⟨rfl, rfl, rfl⟩, ⟨rfl, rfl, rfl⟩⟩

/-- Two types are compared whose names are distinct on either side.  Removing the override that was
refused changes more than the warnings: the base types of the second pair are only found to be
the same once it is gone. -/
theorem refused_override_counts_in_report :
    (derivedReference.types.map TypeDecl.fullName).Nodup ∧
      (derivedTarget.types.map TypeDecl.fullName).Nodup ∧
      LibraryReport.ofSurfaces "sample" derivedReference derivedTarget
          (refusedSettings.heeding derivedReference derivedTarget) ≠
        (LibraryReport.ofSurfaces "sample" derivedReference derivedTarget refusedSettings).map
          LibraryReport.withoutWarnings := by
  refine ⟨by decide +kernel, by decide +kernel, fun same => ?_⟩
  have hmatched :
      (Scope.between derivedReference derivedTarget {}).matching.matched =
        (Scope.between derivedReference derivedTarget refusedSettings).matching.matched := by
    rw [← heeding_refused, matching_between_heeding]
  have hrefused :
      (LibraryReport.ofSurfaces "sample" derivedReference derivedTarget refusedSettings).map
        (fun report => report.summary.matchedWithDifferences) = .ok 1 := by
    rw [matchedWithDifferences_of_bare fun _ => bare_of_mem_refused, matched_refused,
      Except.ok.injEq]
    decide +kernel
  have hheeding :
      (LibraryReport.ofSurfaces "sample" derivedReference derivedTarget {}).map
        (fun report => report.summary.matchedWithDifferences) = .ok 0 := by
    rw [matchedWithDifferences_of_bare fun _ h => bare_of_mem_refused (hmatched ▸ h), hmatched,
      matched_refused, Except.ok.injEq]
    decide +kernel
  rw [heeding_refused] at same
  rw [same] at hheeding
  cases hreport :
      LibraryReport.ofSurfaces "sample" derivedReference derivedTarget refusedSettings with
  | error error =>
      simp [hreport, Except.map] at hrefused
  | ok report =>
      simp only [hreport, Except.map, Except.ok.injEq] at hrefused hheeding
      simp [LibraryReport.withoutWarnings, hrefused] at hheeding

end Refused

end Counterpart
