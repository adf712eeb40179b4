import Counterpart.Proofs.Matching.Applied
import Counterpart.Proofs.Matching.Schedule

/-!
# Why two types are paired

With distinct full names on either side, the reason of a pair is the strongest one there is for
its reference type, and no other choice was open when the pair was made.

* `follows_of_heuristic`: a pair by a naming rule meets the rule.
* `unguessed_of_mem_run`: a step only pairs a type whose other choices were taken before.
* `reason_eq_override_iff`: the pairs by override are those that the settings ask for.
-/

namespace Counterpart
namespace Scope

/-- The settings ask for a pair: the first override of the reference type names the target type,
and no override that applies before it does. -/
def AsksFor (scope : Scope) (reference target : TypeDecl) : Prop :=
  ∃ earlier entry later,
    scope.settings.overrides = earlier ++ entry :: later ∧
      (∀ other ∈ earlier, other.reference ≠ reference.fullName) ∧
      entry.reference = reference.fullName ∧
      entry.target = target.fullName ∧
      ∀ other ∈ scope.applied earlier.reverse, other.target ≠ target.fullName

/-- What the reason of a pair says of its types and of the other pairs. -/
structure Justified (scope : Scope) (pairing : Pairing) : Prop where
  override_iff :
    pairing.reason = .override ↔ scope.AsksFor pairing.reference pairing.target
  declared :
    pairing.reason = .declaredEquivalent →
      (∀ other ∈ scope.matching.matched,
        other.reference = pairing.reference → other.reason ≠ .override) ∧
      pairing.target.declaredEquivalent =
        some ⟨pairing.reference.package, pairing.reference.referencePath.dotted⟩
  named :
    ∀ rule, pairing.reason = .heuristic rule →
      pairing.target.declaredEquivalent = none ∧
      TypeDecl.Kind.compatible pairing.reference.kind pairing.target.kind = true ∧
      scope.follows rule pairing.reference pairing.target = true ∧
      (∀ other ∈ scope.matching.matched,
        other.reference = pairing.reference →
          other.reason ≠ .override ∧ other.reason ≠ .declaredEquivalent) ∧
      -- After the step of declared equivalents the type is pending and not ambiguous.
      ⟨pairing.reference, []⟩ ∈ (scope.poolAt .names).pending
  unguessed :
    ∀ step, pairing.reason.rank = Step.rank step →
      ∀ other ∈ scope.target,
        scope.accepts step pairing.reference other = true → other ≠ pairing.target →
          scope.matching.TakenBefore step pairing.reference other

/-- The settings ask for a pair if and only if an override that applies names its types. -/
theorem asksFor_iff
    {scope : Scope} {reference target : TypeDecl}
    (hreference : reference ∈ scope.reference)
    (htarget : target ∈ scope.target) :
    scope.AsksFor reference target ↔
      ∃ entry ∈ scope.applied scope.settings.overrides.reverse,
        entry.names = (reference.fullName, target.fullName) := by
  constructor
  · rintro ⟨earlier, entry, later, hlisted, first, hnamed, hmeant, huntaken⟩
    refine ⟨entry, ?_, Prod.ext hnamed hmeant⟩
    rw [mem_applied_iff, hlisted]
    refine ⟨later.reverse, earlier.reverse, by simp, ?_, ?_, ?_, ?_⟩
    · intro other hother
      rw [hnamed]
      exact first other (List.mem_reverse.mp hother)
    · exact ⟨reference, hreference, hnamed.symm⟩
    · exact ⟨target, htarget, hmeant.symm⟩
    · rw [hmeant]
      exact huntaken
  · rintro ⟨entry, hentry, hnames⟩
    obtain ⟨hnamed, hmeant⟩ := Prod.mk.inj hnames
    obtain ⟨later, earlier, hlisted, happlies⟩ := mem_applied_iff.mp hentry
    refine ⟨earlier.reverse, entry, later.reverse, ?_, ?_, hnamed, hmeant, ?_⟩
    · have hreversed := congrArg List.reverse hlisted
      simpa using hreversed
    · intro other hother
      rw [← hnamed]
      exact happlies.first other (List.mem_reverse.mp hother)
    · rw [List.reverse_reverse, ← hmeant]
      exact happlies.untaken

/-- The reason with which a step pairs two types holds of them. -/
theorem reason?_of_mem_run
    {scope : Scope} {step : Step} {pairing : Pairing}
    (h : pairing ∈ (scope.run step).pairs) :
    scope.reason? step pairing.reference pairing.target = some pairing.reason ∧
      ⟨pairing.reference, []⟩ ∈ (scope.poolAt step).pending := by
  obtain ⟨before, after, hpending, single⟩ := Pool.exists_turn_of_mem_pairs h
  have hcandidate := List.mem_singleton_self (pairing.target, pairing.reason)
  rw [← single, Pool.mem_candidates_iff] at hcandidate
  refine ⟨hcandidate.2, ?_⟩
  rw [hpending]
  simp

/-- A pair by a naming rule meets that rule, and its target type has no declared equivalent. -/
theorem follows_of_heuristic
    {scope : Scope} {pairing : Pairing} {rule : Rule}
    (h : pairing ∈ scope.matching.matched)
    (hreason : pairing.reason = .heuristic rule) :
    pairing.target.declaredEquivalent = none ∧
      scope.follows rule pairing.reference pairing.target = true := by
  have hrun : pairing ∈ (scope.run .names).pairs :=
    mem_run_iff.mpr ⟨h, by rw [hreason]; rfl⟩
  have haccepts := (reason?_of_mem_run hrun).1
  simp only [reason?, namedReason, Option.ite_none_left_eq_some, Option.map_eq_some_iff, hreason,
    Reason.heuristic.injEq] at haccepts
  obtain ⟨hdeclared, found, hfound, rfl⟩ := haccepts
  exact ⟨by simpa using hdeclared, follows_of_rule?_eq_some hfound⟩

theorem declaredEquivalent_of_declares
    {reference target : TypeDecl}
    (h : declares reference target = true) :
    target.declaredEquivalent = some ⟨reference.package, reference.referencePath.dotted⟩ :=
  declares_iff.mp h

section Distinct

variable {scope : Scope} (distinct : scope.DistinctNames)
include distinct

/-- The pairs by override are those that the settings ask for. -/
theorem reason_eq_override_iff
    {pairing : Pairing}
    (h : pairing ∈ scope.matching.matched) :
    pairing.reason = .override ↔ scope.AsksFor pairing.reference pairing.target := by
  have hreached := scope.reached_settled
  have happlied := scope.pairsApplied_overridden
  have hreference : pairing.reference ∈ scope.reference :=
    hreached.mem_reference_iff.mpr (Or.inl ⟨pairing, h, rfl⟩)
  have htarget : pairing.target ∈ scope.target :=
    hreached.mem_target_iff.mpr (Or.inl ⟨pairing, h, rfl⟩)
  rw [asksFor_iff hreference htarget]
  constructor
  · intro hreason
    have hmade : pairing ∈ (scope.poolAt .equivalents).pairs :=
      mem_poolAt_iff.mpr ⟨h, by simp [hreason, Reason.rank, Step.rank]⟩
    exact happlied.exists_applied hmade
  · rintro ⟨entry, hentry, hnames⟩
    obtain ⟨made, hmade, hsame⟩ := happlied.exists_pairing hentry
    have hpoolAt : made ∈ (scope.poolAt .equivalents).pairs := hmade
    obtain ⟨hmatched, _⟩ := mem_poolAt_iff.mp hpoolAt
    have hown : made.reference = pairing.reference := by
      have hlisted : made.reference ∈ scope.reference :=
        hreached.mem_reference_iff.mpr (Or.inl ⟨made, hmatched, rfl⟩)
      exact distinct.reference_eq hlisted hreference (congrArg Prod.fst (hsame.trans hnames))
    obtain rfl := hreached.eq_of_reference_eq distinct hmatched h hown
    exact scope.beforeSteps_overridden.reason made hmade

/-- When a step pairs a type, all other targets that it accepts in that step are taken. -/
theorem unguessed_of_mem_run
    {step : Step} {pairing : Pairing} {other : TypeDecl}
    (h : pairing ∈ (scope.run step).pairs)
    (hother : other ∈ scope.target)
    (haccepts : scope.accepts step pairing.reference other = true)
    (hne : other ≠ pairing.target) :
    scope.matching.TakenBefore step pairing.reference other := by
  by_contra huntaken
  have hpending : pairing.reference ∈ (scope.poolAt step).pending.map Pending.decl :=
    List.mem_map_of_mem (reason?_of_mem_run h).2
  have hfree := (mem_freeAtTurn_iff distinct hpending).mpr ⟨hother, huntaken⟩
  have haccepted : other ∈ scope.acceptedAtTurn step pairing.reference :=
    List.mem_filter.mpr ⟨hfree, haccepts⟩
  rw [acceptedAtTurn_of_mem_run distinct h, List.mem_singleton] at haccepted
  exact hne haccepted

end Distinct

end Scope

/-- With distinct full names, every pair of a matching is justified. -/
theorem matching_justifies_pairs
    {scope : Scope} {pairing : Pairing}
    (distinct : scope.DistinctNames)
    (h : pairing ∈ scope.matching.matched) :
    scope.Justified pairing := by
  have hown :
      ∀ other ∈ scope.matching.matched,
        other.reference = pairing.reference → other.reason = pairing.reason := by
    intro other hother same
    rw [scope.reached_settled.eq_of_reference_eq distinct hother h same]
  refine ⟨Scope.reason_eq_override_iff distinct h, ?_, ?_, ?_⟩
  · intro hreason
    have hrun : pairing ∈ (scope.run .equivalents).pairs :=
      Scope.mem_run_iff.mpr ⟨h, by simp [hreason, Reason.rank, Step.rank]⟩
    refine ⟨?_, ?_⟩
    · intro other hother same
      simp [hown other hother same, hreason]
    · have haccepts := (Scope.reason?_of_mem_run hrun).1
      simp only [Scope.reason?, Scope.declaredReason, Option.ite_none_right_eq_some] at haccepts
      exact Scope.declaredEquivalent_of_declares haccepts.1
  · intro rule hreason
    have hrun : pairing ∈ (scope.run .names).pairs :=
      Scope.mem_run_iff.mpr ⟨h, by simp [hreason, Reason.rank, Step.rank]⟩
    obtain ⟨haccepts, hpending⟩ := Scope.reason?_of_mem_run hrun
    simp only [Scope.reason?, Scope.namedReason, Option.ite_none_left_eq_some,
      Option.map_eq_some_iff, hreason, Reason.heuristic.injEq] at haccepts
    obtain ⟨hdeclared, found, hfound, rfl⟩ := haccepts
    have hfollows := Scope.follows_of_rule?_eq_some hfound
    refine ⟨by simpa using hdeclared, ?_, hfollows, ?_, hpending⟩
    · simp only [Scope.follows, Bool.and_eq_true] at hfollows
      exact hfollows.1.1
    · intro other hother same
      simp [hown other hother same, hreason]
  · intro step hrank other hother haccepts hne
    have hrun : pairing ∈ (scope.run step).pairs := Scope.mem_run_iff.mpr ⟨h, hrank⟩
    exact Scope.unguessed_of_mem_run distinct hrun hother haccepts hne

theorem matching_justifies_pairs_zeta_item :
    Scope.sample.Justified
      ⟨.named .reference .classType "a.Zeta$Item", .named .target .classType "A.Zeta_Item",
        .heuristic .flattenedNesting⟩ := by
  refine matching_justifies_pairs Scope.distinctNames_sample ?_
  rw [Scope.matching, Scope.settled_sample]
  decide +kernel

end Counterpart
