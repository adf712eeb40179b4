import Counterpart.Proofs.Matching.Applied
import Counterpart.Proofs.Matching.Schedule
import Counterpart.Validation

/-!
# Every override is accounted for

An override of the settings becomes one pair or leaves one warning, and the names of its types, the
types of the scope and the overrides listed before it say which.  `Disposes` lists the cases in the
order of the checks: a reference type overridden before, no such reference type, no such target
type, a target type that an earlier override took.  An override that was refused still stands in
the way of later ones of its reference type, but does not take its target type.

* `Recorded.disposes_of_ok`, `Recorded.disposes_of_error`: what a ruling says in terms of the scope.
* `Recorded.exists_recorded`: all overrides of a list are recorded.
* `overrides_accounted_for`: what a ledger of all overrides says of the matching.
-/

namespace Counterpart

/-- What becomes of an override. -/
inductive Disposition
  | paired (pairing : Pairing)
  | refused (warning : Warning)

namespace Disposition

def pairing? : Disposition → Option Pairing
  | paired pairing => some pairing
  | refused _ => none

def warning? : Disposition → Option Warning
  | paired _ => none
  | refused warning => some warning

end Disposition

/-- Overrides in their order, each with what became of it. -/
abbrev Ledger := List (Override × Disposition)

namespace Ledger

def pairs (ledger : Ledger) : List Pairing :=
  ledger.filterMap fun line => line.2.pairing?

def warnings (ledger : Ledger) : List Warning :=
  ledger.filterMap fun line => line.2.warning?

/-- A line of a ledger is a pair or a warning. -/
theorem length_pairs_add_length_warnings
    (ledger : Ledger) :
    ledger.pairs.length + ledger.warnings.length = ledger.length := by
  induction ledger with
  | nil =>
      rfl
  | cons line rest ih =>
      obtain ⟨entry, pairing | warning⟩ := line
      all_goals
        simp only [pairs, warnings, Disposition.pairing?, Disposition.warning?,
          List.filterMap_cons, List.length_cons] at ih ⊢
        omega

/-- No line names a reference type if none of the overrides, the latest listed first, does. -/
theorem unnamed_iff
    {ledger : Ledger} {name : String} :
    (∀ other ∈ (ledger.map Prod.fst).reverse, other.reference ≠ name) ↔
      ∀ line ∈ ledger, line.1.reference ≠ name := by
  simp

end Ledger

namespace Scope

/-- What becomes of an override after the ones listed before it. -/
inductive Disposes (scope : Scope) (earlier : Ledger) (entry : Override) : Disposition → Prop
  /-- An earlier override names the same reference type, whether it applied or not. -/
  | repeated
      (same : ∃ line ∈ earlier, line.1.reference = entry.reference) :
      Disposes scope earlier entry (.refused (.duplicateOverride entry.reference))
  | withoutReference
      (first : ∀ line ∈ earlier, line.1.reference ≠ entry.reference)
      (absent : ∀ decl ∈ scope.reference, decl.fullName ≠ entry.reference) :
      Disposes scope earlier entry (.refused (.referenceNotFound entry.reference))
  | withoutTarget
      (first : ∀ line ∈ earlier, line.1.reference ≠ entry.reference)
      (present : ∃ decl ∈ scope.reference, decl.fullName = entry.reference)
      (absent : ∀ decl ∈ scope.target, decl.fullName ≠ entry.target) :
      Disposes scope earlier entry (.refused (.targetNotFound entry.reference entry.target))
  /-- An earlier override took the target type for the reference type of its pair. -/
  | taken
      (first : ∀ line ∈ earlier, line.1.reference ≠ entry.reference)
      (present : ∃ decl ∈ scope.reference, decl.fullName = entry.reference)
      (meant : ∃ decl ∈ scope.target, decl.fullName = entry.target)
      (owner : Pairing)
      (owned : owner ∈ earlier.pairs ∧ owner.target.fullName = entry.target) :
      Disposes scope earlier entry
        (.refused (.targetTaken entry.reference entry.target owner.reference.fullName))
  | applied
      (first : ∀ line ∈ earlier, line.1.reference ≠ entry.reference)
      {reference : TypeDecl}
      (present : reference ∈ scope.reference ∧ reference.fullName = entry.reference)
      {target : TypeDecl}
      (meant : target ∈ scope.target ∧ target.fullName = entry.target)
      (untaken : ∀ owner ∈ earlier.pairs, owner.target.fullName ≠ entry.target) :
      Disposes scope earlier entry (.paired ⟨reference, target, .override⟩)

/-- Every line of a ledger follows from the lines before it. -/
inductive Records (scope : Scope) : Ledger → Prop
  | start : Records scope []
  | next
      {ledger : Ledger} {entry : Override} {disposition : Disposition}
      (earlier : Records scope ledger)
      (last : scope.Disposes ledger entry disposition) :
      Records scope (ledger ++ [(entry, disposition)])

/-- The pool after the overrides of a ledger. -/
structure Recorded (scope : Scope) (ledger : Ledger) (pool : Pool) : Prop where
  records : scope.Records ledger
  applied : scope.PairsApplied (ledger.map Prod.fst).reverse pool
  pairs : pool.pairs = ledger.pairs

theorem recorded_ofTypes
    (scope : Scope) :
    scope.Recorded [] (Pool.ofTypes scope.reference scope.target) where
  records := .start
  applied := ⟨scope.reached_ofTypes, rfl⟩
  pairs := rfl

section Recorded

variable {scope : Scope} {ledger : Ledger} {pool : Pool} (h : scope.Recorded ledger pool)
  {entry : Override}
include h

/-- An override that is refused is disposed of with its warning. -/
theorem Recorded.disposes_of_error
    {warning : Warning}
    (ruling : Pool.Ruling (ledger.map Prod.fst).reverse pool entry (.error warning)) :
    scope.Disposes ledger entry (.refused warning) := by
  cases ruling with
  | repeated other listed same =>
      obtain ⟨line, hline, rfl⟩ := List.mem_map.mp (List.mem_reverse.mp listed)
      exact .repeated ⟨line, hline, same⟩
  | withoutReference first absent =>
      refine .withoutReference (Ledger.unnamed_iff.mp first) ?_
      intro decl hdecl named
      obtain ⟨left, hleft, hnamed⟩ := h.applied.exists_pending first ⟨decl, hdecl, named⟩
      exact absent left hleft hnamed
  | taken first reference pending named owner paired owned =>
      have present := h.applied.reached.reference_mem_of_mem_pending pending
      have meant := (h.applied.reached.mem_of_mem_pairs paired).2
      rw [h.pairs] at paired
      exact .taken (Ledger.unnamed_iff.mp first) ⟨_, present, named⟩ ⟨_, meant, owned⟩ owner
        ⟨paired, owned⟩
  | withoutTarget first reference pending named untaken absent =>
      have present := h.applied.reached.reference_mem_of_mem_pending pending
      refine .withoutTarget (Ledger.unnamed_iff.mp first) ⟨_, present, named⟩ ?_
      intro decl hdecl meant
      obtain ⟨target, hfree, hmeant⟩ := h.applied.exists_free untaken ⟨decl, hdecl, meant⟩
      exact absent target hfree hmeant

/-- An override that applies is disposed of with the pair that it adds to the pool. -/
theorem Recorded.disposes_of_ok
    {next : Pool}
    (ruling : Pool.Ruling (ledger.map Prod.fst).reverse pool entry (.ok next)) :
    ∃ pairing, scope.Disposes ledger entry (.paired pairing) ∧
      next.pairs = pool.pairs ++ [pairing] := by
  cases ruling with
  | @applied first reference before after pending named untaken target front back free meant =>
      have hpending : reference ∈ pool.pending := by
        simp [pending]
      have hfree : target ∈ pool.free := by
        simp [free]
      refine ⟨⟨reference.decl, target, .override⟩, ?_, rfl⟩
      have present := h.applied.reached.reference_mem_of_mem_pending hpending
      have exists_target := h.applied.reached.target_mem_of_mem_free hfree
      rw [h.pairs] at untaken
      exact .applied (Ledger.unnamed_iff.mp first) ⟨present, named⟩ ⟨exists_target, meant⟩ untaken

theorem Recorded.pair
    {next : Pool} {pairing : Pairing}
    (ruling : Pool.Ruling (ledger.map Prod.fst).reverse pool entry (.ok next))
    (disposes : scope.Disposes ledger entry (.paired pairing))
    (pairs : next.pairs = pool.pairs ++ [pairing]) :
    scope.Recorded (ledger ++ [(entry, .paired pairing)]) next where
  records := .next h.records disposes
  applied := by
    simpa using h.applied.apply ruling
  pairs := by
    simp [pairs, h.pairs, Ledger.pairs, Disposition.pairing?]

theorem Recorded.refuse
    {warning : Warning}
    (ruling : Pool.Ruling (ledger.map Prod.fst).reverse pool entry (.error warning)) :
    scope.Recorded (ledger ++ [(entry, .refused warning)]) pool where
  records := .next h.records (h.disposes_of_error ruling)
  applied := by
    simpa using h.applied.refuse ruling
  pairs := by
    simp [h.pairs, Ledger.pairs, Disposition.pairing?]

/-- The overrides of a list continue a ledger, with their warnings in their order. -/
theorem Recorded.exists_recorded
    (overrides : List Override) :
    ∃ rest : Ledger,
      rest.map Prod.fst = overrides ∧
        rest.warnings = (pool.overrideAll (ledger.map Prod.fst).reverse overrides).2 ∧
        scope.Recorded (ledger ++ rest)
          (pool.overrideAll (ledger.map Prod.fst).reverse overrides).1 := by
  induction overrides generalizing ledger pool with
  | nil =>
      exact ⟨[], rfl, rfl, by simpa [Pool.overrideAll] using h⟩
  | cons entry overrides ih =>
      have ruling := Pool.ruling_overrideWith (ledger.map Prod.fst).reverse pool entry
      cases hresult : pool.overrideWith (ledger.map Prod.fst).reverse entry with
      | ok next =>
          rw [hresult] at ruling
          obtain ⟨pairing, hdisposes, hpairs⟩ := h.disposes_of_ok ruling
          obtain ⟨rest, rfl, hwarnings, hrecorded⟩ := ih (h.pair ruling hdisposes hpairs)
          refine ⟨(entry, .paired pairing) :: rest, rfl, ?_, ?_⟩
          · simpa [Pool.overrideAll, hresult, Ledger.warnings, Disposition.warning?]
              using hwarnings
          · simpa [Pool.overrideAll, hresult] using hrecorded
      | error warning =>
          rw [hresult] at ruling
          obtain ⟨rest, rfl, hwarnings, hrecorded⟩ := ih (h.refuse ruling)
          refine ⟨(entry, .refused warning) :: rest, rfl, ?_, ?_⟩
          · simpa [Pool.overrideAll, hresult, Ledger.warnings, Disposition.warning?]
              using hwarnings
          · simpa [Pool.overrideAll, hresult] using hrecorded

end Recorded

/-- A line only warns of a repetition if a line before it names the same reference type. -/
theorem Records.not_mem_warnings
    {scope : Scope} {ledger : Ledger}
    (h : scope.Records ledger)
    (distinct : (ledger.map fun line => line.1.reference).Nodup) (reference : String) :
    .duplicateOverride reference ∉ ledger.warnings := by
  induction h with
  | start =>
      simp [Ledger.warnings]
  | @next ledger entry disposition earlier last ih =>
      rw [List.map_append, List.nodup_append] at distinct
      have hearlier := ih distinct.1
      cases last with
      | repeated same =>
          obtain ⟨line, hline, hsame⟩ := same
          exact absurd hsame
            (distinct.2.2 _ (List.mem_map_of_mem hline) _ (List.mem_singleton_self _))
      | withoutReference | withoutTarget | taken | applied =>
          simpa [Ledger.warnings, Disposition.warning?] using hearlier

/-- What a ledger of all overrides says of the matching. -/
structure Accounts (scope : Scope) (ledger : Ledger) : Prop where
  overrides : ledger.map Prod.fst = scope.settings.overrides
  records : scope.Records ledger
  /-- The pairs by override come first, in the order of the overrides. -/
  pairs :
    ∃ others,
      scope.matching.matched = ledger.pairs ++ others ∧
        (∀ pairing ∈ ledger.pairs, pairing.reason = .override) ∧
        ∀ pairing ∈ others, pairing.reason ≠ .override
  warnings : scope.matching.warnings = ledger.warnings

theorem exists_accounts
    (scope : Scope) :
    ∃ ledger, scope.Accounts ledger := by
  obtain ⟨ledger, hoverrides, hwarnings, hrecorded⟩ :=
    scope.recorded_ofTypes.exists_recorded scope.settings.overrides
  have hpairs : scope.overridden.1.pairs = ledger.pairs := hrecorded.pairs
  refine ⟨ledger, hoverrides, hrecorded.records, ?_, hwarnings.symm⟩
  refine ⟨(scope.run .equivalents).pairs ++ (scope.run .names).pairs, ?_, ?_, ?_⟩
  · rw [matched_eq, hpairs, List.append_assoc]
  · rw [← hpairs]
    exact scope.beforeSteps_overridden.reason
  · intro pairing hpairing hreason
    rcases List.mem_append.mp hpairing with hrun | hrun
    · have hrank := rank_of_mem_run hrun
      simp [hreason, Reason.rank, Step.rank] at hrank
    · have hrank := rank_of_mem_run hrun
      simp [hreason, Reason.rank, Step.rank] at hrank

/-- The pairs by override and the warnings are together as many as the overrides. -/
theorem Accounts.count
    {scope : Scope} {ledger : Ledger}
    (h : scope.Accounts ledger) :
    scope.matching.matched.countP (fun pairing => pairing.reason = .override) +
        scope.matching.warnings.length =
      scope.settings.overrides.length := by
  obtain ⟨others, hmatched, hoverride, hothers⟩ := h.pairs
  have hpairs :
      ledger.pairs.countP (fun pairing => pairing.reason = .override) = ledger.pairs.length :=
    List.countP_eq_length.mpr fun pairing hpairing => by simp [hoverride pairing hpairing]
  have hrest : others.countP (fun pairing => pairing.reason = .override) = 0 :=
    List.countP_eq_zero.mpr fun pairing hpairing => by simp [hothers pairing hpairing]
  rw [hmatched, List.countP_append, hpairs, hrest, h.warnings, Nat.add_zero,
    ledger.length_pairs_add_length_warnings, ← h.overrides, List.length_map]

/-- Accepted settings leave no warning of a repetition. -/
theorem Accounts.not_mem_warnings
    {scope : Scope} {ledger : Ledger}
    (h : scope.Accounts ledger)
    (valid : scope.settings.defect? = none) (reference : String) :
    .duplicateOverride reference ∉ scope.matching.warnings := by
  have distinct := (Settings.defect?_eq_none_iff.mp valid).2
  rw [← h.overrides, List.map_map] at distinct
  rw [h.warnings]
  exact h.records.not_mem_warnings distinct reference

end Scope

/-- Every override is disposed of by one pair or one warning, as the overrides before it and the
types of the scope say; accepted settings leave no warning of a repetition. -/
theorem overrides_accounted_for
    (scope : Scope) :
    (∃ ledger, scope.Accounts ledger) ∧
      scope.matching.matched.countP (fun pairing => pairing.reason = .override) +
          scope.matching.warnings.length =
        scope.settings.overrides.length ∧
      (scope.settings.defect? = none →
        ∀ reference, .duplicateOverride reference ∉ scope.matching.warnings) := by
  obtain ⟨ledger, haccounts⟩ := scope.exists_accounts
  exact ⟨⟨ledger, haccounts⟩, haccounts.count, haccounts.not_mem_warnings⟩

section Contested

/-- A scope with one override of each kind that accepted settings may hold: the first applies, the
next two name a missing type on either side, and the last wants the target type of the first. -/
def Scope.contested : Scope :=
  { settings :=
      { overrides :=
          [⟨"a.Alpha", "A.One", none⟩, ⟨"a.Gone", "A.Two", none⟩, ⟨"a.Beta", "A.Gone", none⟩,
            ⟨"a.Gamma", "A.One", none⟩] }
    reference := ["a.Alpha", "a.Beta", "a.Gamma"].map (.named .reference .classType)
    target := ["A.One", "A.Two"].map (.named .target .classType) }

theorem overrides_accounted_for_contested :
    Scope.contested.settings.defect? = none ∧
      ∀ reference, .duplicateOverride reference ∉ Scope.contested.matching.warnings := by
  have valid : Scope.contested.settings.defect? = none :=
    Settings.defect?_eq_none_iff.mpr ⟨by decide +kernel, by decide +kernel⟩
  exact ⟨valid, (overrides_accounted_for Scope.contested).2.2 valid⟩

end Contested

end Counterpart
