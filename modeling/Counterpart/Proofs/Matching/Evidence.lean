import Counterpart.Matching.Explanation
import Counterpart.Proofs.Correspondence.Exclusion
import Counterpart.Proofs.Correspondence.Lookup
import Counterpart.Proofs.Matching.Ambiguity
import Counterpart.Proofs.Matching.Exhaustion
import Counterpart.Proofs.Matching.Justification

/-!
# The evidence in an explanation

An explanation looks for evidence in all target types, one kind of evidence at a time, while the
outcome it gives comes from the matching, whose steps only see the targets that are still free.  The
two fit together: what became of a type rests on evidence that the explanation lists, and evidence
that came to nothing belongs to targets that other types were paired with.

* `places_iff`: the outcome is the place of the type in the matching.
* `Gathers`, `Gathers.lists_iff`: the evidence, in terms of the steps that use it.
* `explanation_backs_outcome`: how every outcome is backed.
-/

namespace Counterpart

/-- The place of a reference type in a matching, as an outcome. -/
inductive Matching.Places (matching : Matching) (decl : TypeDecl) : Outcome → Prop
  | matched
      {pairing : Pairing}
      (paired : pairing ∈ matching.matched)
      (own : pairing.reference = decl) :
      Places matching decl (.matched pairing.target.fullName pairing.reason)
  | ambiguous
      {left : Unmatched}
      (leftOver : left ∈ matching.unmatchedReference)
      (own : left.decl = decl)
      (tagged : left.candidates ≠ []) :
      Places matching decl (.ambiguous left.candidates)
  | unmatched
      {left : Unmatched}
      (leftOver : left ∈ matching.unmatchedReference)
      (own : left.decl = decl)
      (plain : left.candidates = []) :
      Places matching decl .unmatched

namespace Explanation

/-- A naming rule accepts the target of a full name. -/
def Names (explanation : Explanation) (rule : Rule) (target : String) : Prop :=
  ∃ account ∈ explanation.rules, account.rule = rule ∧ target ∈ account.candidates

/-- There is evidence of the kind that a step uses for the target of a full name. -/
def Lists (explanation : Explanation) : Step → String → Prop
  | .equivalents, target => target ∈ explanation.declaredEquivalents
  | .names, target => ∃ rule, explanation.Names rule target

end Explanation

namespace Scope

/-- How an explanation of a reference type backs the outcome that it gives. -/
structure Backs (scope : Scope) (decl : TypeDecl) (explanation : Explanation) : Prop where
  outcome_iff :
    ∀ outcome, scope.matching.Places decl outcome ↔ outcome = explanation.outcome
  override :
    ∀ target, explanation.outcome = .matched target .override →
      explanation.overrideTarget = some target
  equivalent :
    ∀ target, explanation.outcome = .matched target .declaredEquivalent →
      target ∈ explanation.declaredEquivalents
  named :
    ∀ target rule, explanation.outcome = .matched target (.heuristic rule) →
      ∀ other, explanation.Names other target ↔ other = rule
  ambiguous :
    ∀ candidates, explanation.outcome = .ambiguous candidates →
      2 ≤ candidates.length ∧ candidates.Nodup ∧
        ∃ step, ∀ target ∈ candidates, explanation.Lists step target
  unmatched :
    explanation.outcome = .unmatched →
      ∀ step target, explanation.Lists step target →
        ∃ pairing ∈ scope.matching.matched,
          pairing.target.fullName = target ∧ pairing.reference ≠ decl
  silent :
    ∀ account ∈ explanation.rules, account.expectedName = none → account.candidates = []

section Places

variable {scope : Scope} (distinct : scope.DistinctNames)
include distinct

theorem reference_ne_of_mem_unmatched
    {pairing : Pairing} {left : Unmatched}
    (hpairing : pairing ∈ scope.matching.matched)
    (hleft : left ∈ scope.matching.unmatchedReference) :
    pairing.reference ≠ left.decl := by
  obtain ⟨entry, hentry, rfl⟩ := List.mem_map.mp hleft
  exact scope.reached_settled.reference_ne_decl distinct hpairing hentry

/-- A reference type is left over once only. -/
theorem unmatched_eq_of_decl_eq
    {first second : Unmatched}
    (hfirst : first ∈ scope.matching.unmatchedReference)
    (hsecond : second ∈ scope.matching.unmatchedReference)
    (same : first.decl = second.decl) :
    first = second := by
  obtain ⟨entry, hentry, rfl⟩ := List.mem_map.mp hfirst
  obtain ⟨other, hother, rfl⟩ := List.mem_map.mp hsecond
  have hnodup : (scope.settled.pending.map Pending.decl).Nodup :=
    (scope.reached_settled.pending_ascending distinct).imp fun h => h.ne
  rw [List.inj_on_of_nodup_map hnodup hentry hother same]

/-- A reference type has one place in a matching. -/
theorem outcome_eq_of_places
    {decl : TypeDecl} {first second : Outcome}
    (hfirst : scope.matching.Places decl first)
    (hsecond : scope.matching.Places decl second) :
    first = second := by
  cases hfirst with
  | matched paired own =>
      cases hsecond with
      | matched paired' own' =>
          rw [scope.reached_settled.eq_of_reference_eq distinct paired paired'
            (own.trans own'.symm)]
      | ambiguous leftOver own' | unmatched leftOver own' =>
          exact absurd (own.trans own'.symm)
            (reference_ne_of_mem_unmatched distinct paired leftOver)
  | ambiguous leftOver own tagged =>
      cases hsecond with
      | matched paired own' =>
          exact absurd (own'.trans own.symm)
            (reference_ne_of_mem_unmatched distinct paired leftOver)
      | ambiguous leftOver' own' =>
          rw [unmatched_eq_of_decl_eq distinct leftOver leftOver' (own.trans own'.symm)]
      | unmatched leftOver' own' plain =>
          obtain rfl :=
            unmatched_eq_of_decl_eq distinct leftOver leftOver' (own.trans own'.symm)
          exact absurd plain tagged
  | unmatched leftOver own plain =>
      cases hsecond with
      | matched paired own' =>
          exact absurd (own'.trans own.symm)
            (reference_ne_of_mem_unmatched distinct paired leftOver)
      | ambiguous leftOver' own' tagged =>
          obtain rfl :=
            unmatched_eq_of_decl_eq distinct leftOver leftOver' (own.trans own'.symm)
          exact absurd plain tagged
      | unmatched =>
          rfl

theorem places_outcome
    {decl : TypeDecl} (hdecl : decl ∈ scope.reference) :
    scope.matching.Places decl (scope.matching.outcome decl.fullName) := by
  have hreached := scope.reached_settled
  unfold Matching.outcome
  cases hpairing : scope.matching.matched.find?
      (fun pairing => pairing.reference.fullName == decl.fullName) with
  | some pairing =>
      have paired := List.mem_of_find?_eq_some hpairing
      have hname : pairing.reference.fullName = decl.fullName := by
        simpa using List.find?_some hpairing
      exact .matched paired
        (distinct.reference_eq (hreached.mem_of_mem_pairs paired).1 hdecl hname)
  | none =>
      cases hleft : scope.matching.unmatchedReference.find?
          (fun left => left.decl.fullName == decl.fullName && left.isAmbiguous) with
      | some left =>
          have leftOver := List.mem_of_find?_eq_some hleft
          have htest := List.find?_some hleft
          simp only [Bool.and_eq_true, beq_iff_eq, Unmatched.isAmbiguous, Bool.not_eq_true',
            List.isEmpty_eq_false_iff] at htest
          obtain ⟨entry, hentry, rfl⟩ := List.mem_map.mp leftOver
          exact .ambiguous leftOver
            (distinct.reference_eq (hreached.reference_mem_of_mem_pending hentry) hdecl htest.1)
            htest.2
      | none =>
          rcases hreached.mem_reference_iff.mp hdecl with
            ⟨pairing, paired, rfl⟩ | ⟨entry, hentry, rfl⟩
          · have hnone := List.find?_eq_none.mp hpairing pairing paired
            simp at hnone
          · have leftOver :
                ⟨entry.decl, entry.candidates.map TypeDecl.fullName⟩ ∈
                  scope.matching.unmatchedReference :=
              List.mem_map_of_mem hentry
            refine .unmatched leftOver rfl ?_
            simpa [Unmatched.isAmbiguous] using List.find?_eq_none.mp hleft _ leftOver

/-- The outcome that an explanation gives is the place of the type in the matching. -/
theorem places_iff
    {decl : TypeDecl} (hdecl : decl ∈ scope.reference) {outcome : Outcome} :
    scope.matching.Places decl outcome ↔ outcome = scope.matching.outcome decl.fullName := by
  constructor
  · intro h
    exact outcome_eq_of_places distinct h (places_outcome distinct hdecl)
  · rintro rfl
    exact places_outcome distinct hdecl

end Places

/-- What an explanation of a reference type says, in terms of the scope. -/
structure Gathers (scope : Scope) (decl : TypeDecl) (explanation : Explanation) : Prop where
  outcome : explanation.outcome = scope.matching.outcome decl.fullName
  override : explanation.overrideTarget = (scope.override? decl.fullName).map Override.target
  equivalents_iff :
    ∀ name, name ∈ explanation.declaredEquivalents ↔
      ∃ target ∈ scope.target, declares decl target = true ∧ target.fullName = name
  names_iff :
    ∀ rule name, explanation.Names rule name ↔
      ∃ target ∈ scope.target,
        (target.declaredEquivalent = none ∧ scope.follows rule decl target = true) ∧
          target.fullName = name
  silent :
    ∀ account ∈ explanation.rules, account.expectedName = none → account.candidates = []

theorem mem_targetsWhere_iff
    {scope : Scope} {test : TypeDecl → Bool} {name : String} :
    name ∈ scope.targetsWhere test ↔
      ∃ target ∈ scope.target, test target = true ∧ target.fullName = name := by
  simp only [targetsWhere, List.mem_map, List.mem_filter, Pool.ofTypes.sortByName,
    List.mem_mergeSort, and_assoc]

/-- The naming rules of an explanation accept a name if a target of that name follows them. -/
theorem names_iff_of_rules_eq
    {scope : Scope} {decl : TypeDecl} {explanation : Explanation}
    (h : explanation.rules = Rule.all.map (scope.account decl))
    {rule : Rule} {name : String} :
    explanation.Names rule name ↔
      ∃ target ∈ scope.target,
        (target.declaredEquivalent = none ∧ scope.follows rule decl target = true) ∧
          target.fullName = name := by
  have hcandidates :
      name ∈ (scope.account decl rule).candidates ↔
        ∃ target ∈ scope.target,
          (target.declaredEquivalent = none ∧ scope.follows rule decl target = true) ∧
            target.fullName = name := by
    simp only [account, mem_targetsWhere_iff, Bool.and_eq_true, Option.isNone_iff_eq_none]
  rw [← hcandidates, Explanation.Names, h]
  constructor
  · rintro ⟨_, haccount, rfl, hname⟩
    obtain ⟨other, _, rfl⟩ := List.mem_map.mp haccount
    exact hname
  · intro hname
    exact ⟨_, List.mem_map_of_mem (Rule.mem_all rule), rfl, hname⟩

/-- A rule that expects no name accepts no target. -/
theorem candidates_account_eq_nil
    {scope : Scope} {reference : TypeDecl} {rule : Rule}
    (h : (scope.account reference rule).expectedName = none) :
    (scope.account reference rule).candidates = [] := by
  have hpath : expectedPath? reference rule = none := by
    simpa [account, expectedName?] using h
  simp [account, targetsWhere, follows, hpath]

/-- An explanation is given for the reference types of a scope and no others. -/
theorem exists_gathers_of_explain?_eq_some
    {scope : Scope} (distinct : scope.DistinctNames)
    {name : String} {explanation : Explanation}
    (h : scope.explain? name = some explanation) :
    ∃ decl ∈ scope.reference, decl.fullName = name ∧ scope.Gathers decl explanation := by
  obtain ⟨decl, hfound, rfl⟩ := Option.map_eq_some_iff.mp h
  obtain ⟨hdecl, rfl⟩ := (reference?_eq_some_iff distinct).mp hfound
  refine ⟨decl, hdecl, rfl, rfl, rfl, fun name => mem_targetsWhere_iff,
    fun rule name => names_iff_of_rules_eq rfl, ?_⟩
  intro _ haccount hexpected
  obtain ⟨rule, _, rfl⟩ := List.mem_map.mp haccount
  exact candidates_account_eq_nil hexpected

section Gathers

variable {scope : Scope} {decl : TypeDecl} {explanation : Explanation}
  (h : scope.Gathers decl explanation)
include h

/-- The evidence of a kind are the targets that the type accepts in the step that uses it. -/
theorem Gathers.lists_iff
    {step : Step} {name : String} :
    explanation.Lists step name ↔
      ∃ target ∈ scope.target, scope.accepts step decl target = true ∧ target.fullName = name := by
  cases step with
  | equivalents =>
      exact h.equivalents_iff name
  | names =>
      simp only [Explanation.Lists, h.names_iff, accepts, Bool.and_eq_true,
        Option.isNone_iff_eq_none, List.any_eq_true]
      constructor
      · rintro ⟨rule, target, htarget, ⟨hfree, hfollows⟩, hname⟩
        exact ⟨target, htarget, ⟨hfree, rule, Rule.mem_all rule, hfollows⟩, hname⟩
      · rintro ⟨target, htarget, ⟨hfree, rule, _, hfollows⟩, hname⟩
        exact ⟨rule, target, htarget, ⟨hfree, hfollows⟩, hname⟩

variable (distinct : scope.DistinctNames)
include distinct

theorem Gathers.overrideTarget_eq
    {pairing : Pairing}
    (paired : pairing ∈ scope.matching.matched)
    (own : pairing.reference = decl)
    (reason : pairing.reason = .override) :
    explanation.overrideTarget = some pairing.target.fullName := by
  obtain ⟨earlier, entry, later, hlisted, first, hnamed, hmeant, _⟩ :=
    (reason_eq_override_iff distinct paired).mp reason
  have hfound : scope.override? decl.fullName = some entry := by
    rw [← own, override?, List.find?_eq_some_iff_append]
    exact ⟨by simpa using hnamed, earlier, later, hlisted, by simpa using first⟩
  rw [h.override, hfound, Option.map_some, hmeant]

omit distinct in
/-- A target that a step paired a type with is among the evidence which the step uses. -/
theorem Gathers.lists_of_mem_run
    {step : Step} {pairing : Pairing}
    (hrun : pairing ∈ (scope.run step).pairs)
    (own : pairing.reference = decl) :
    explanation.Lists step pairing.target.fullName := by
  have htarget := (scope.reached_settled.mem_of_mem_pairs (mem_run_iff.mp hrun).1).2
  refine h.lists_iff.mpr ⟨pairing.target, htarget, ?_, rfl⟩
  rw [← own, ← isSome_reason?, (reason?_of_mem_run hrun).1]
  rfl

/-- The rule that paired a type with a target accepts this target, and no other rule does. -/
theorem Gathers.names_iff_eq
    {pairing : Pairing} {rule : Rule}
    (paired : pairing ∈ scope.matching.matched)
    (own : pairing.reference = decl)
    (reason : pairing.reason = .heuristic rule)
    (other : Rule) :
    explanation.Names other pairing.target.fullName ↔ other = rule := by
  have hlisted := (scope.reached_settled.mem_of_mem_pairs paired).2
  obtain ⟨hfree, hfollows⟩ := follows_of_heuristic paired reason
  rw [own] at hfollows
  rw [h.names_iff]
  constructor
  · rintro ⟨target, htarget, ⟨_, hother⟩, hname⟩
    obtain rfl := distinct.target_eq htarget hlisted hname
    exact eq_of_follows hother hfollows
  · rintro rfl
    exact ⟨pairing.target, hlisted, ⟨hfree, hfollows⟩, rfl⟩

/-- An ambiguous type lists several targets, all of them evidence of one kind. -/
theorem Gathers.candidates_of_ambiguous
    {left : Unmatched}
    (leftOver : left ∈ scope.matching.unmatchedReference)
    (own : left.decl = decl)
    (tagged : left.candidates ≠ []) :
    2 ≤ left.candidates.length ∧ left.candidates.Nodup ∧
      ∃ step, ∀ target ∈ left.candidates, explanation.Lists step target := by
  have hascending := (tagged_left distinct leftOver).ascending
  obtain ⟨entry, hentry, rfl⟩ := List.mem_map.mp leftOver
  obtain ⟨step, decided⟩ := exists_decided distinct hentry
  refine ⟨?_, hascending.imp fun hlt => hlt.ne, step, ?_⟩
  · have hseveral := decided.several
    have hsome : entry.candidates.length ≠ 0 := by
      simpa using tagged
    rw [List.length_map]
    omega
  · intro name hname
    obtain ⟨target, htarget, rfl⟩ := List.mem_map.mp hname
    have hopen := (decided.mem_iff target).mp htarget
    exact h.lists_iff.mpr ⟨target, hopen.listed, own ▸ hopen.accepted, rfl⟩

/-- A target that a type left over without candidates accepts is paired with another type. -/
theorem Gathers.taken_of_unmatched
    {left : Unmatched}
    (leftOver : left ∈ scope.matching.unmatchedReference)
    (own : left.decl = decl)
    (plain : left.candidates = [])
    {step : Step} {name : String}
    (lists : explanation.Lists step name) :
    ∃ pairing ∈ scope.matching.matched,
      pairing.target.fullName = name ∧ pairing.reference ≠ decl := by
  obtain ⟨target, hlisted, haccepts, rfl⟩ := h.lists_iff.mp lists
  rcases scope.reached_settled.mem_target_iff.mp hlisted with ⟨pairing, paired, rfl⟩ | hfree
  · refine ⟨pairing, paired, rfl, ?_⟩
    rw [← own]
    exact reference_ne_of_mem_unmatched distinct paired leftOver
  · obtain ⟨entry, hentry, rfl⟩ := List.mem_map.mp leftOver
    have hrefused := refuses_of_mem_settled hentry (List.map_eq_nil_iff.mp plain) hfree step
    rw [← own, hrefused] at haccepts
    exact Bool.noConfusion haccepts

/-- An explanation backs its outcome. -/
theorem Gathers.backs
    (hdecl : decl ∈ scope.reference) :
    scope.Backs decl explanation := by
  have hplaces {outcome : Outcome} (houtcome : explanation.outcome = outcome) :
      scope.matching.Places decl outcome :=
    (places_iff distinct hdecl).mpr (houtcome.symm.trans h.outcome)
  refine ⟨?_, ?_, ?_, ?_, ?_, ?_, h.silent⟩
  · intro outcome
    rw [places_iff distinct hdecl, h.outcome]
  · intro target houtcome
    generalize hreason : Reason.override = reason at houtcome
    cases hplaces houtcome with
    | matched paired own =>
        exact h.overrideTarget_eq distinct paired own hreason.symm
  · intro target houtcome
    generalize hreason : Reason.declaredEquivalent = reason at houtcome
    cases hplaces houtcome with
    | matched paired own =>
        have hrun : _ ∈ (scope.run .equivalents).pairs :=
          mem_run_iff.mpr ⟨paired, congrArg Reason.rank hreason.symm⟩
        exact h.lists_of_mem_run hrun own
  · intro target rule houtcome
    generalize hreason : Reason.heuristic rule = reason at houtcome
    cases hplaces houtcome with
    | matched paired own =>
        exact h.names_iff_eq distinct paired own hreason.symm
  · intro candidates houtcome
    cases hplaces houtcome with
    | ambiguous leftOver own tagged =>
        exact h.candidates_of_ambiguous distinct leftOver own tagged
  · intro houtcome step target lists
    cases hplaces houtcome with
    | unmatched leftOver own plain =>
        exact h.taken_of_unmatched distinct leftOver own plain lists

end Gathers

end Scope

/-- With distinct full names, an explanation is given for the reference types of a scope and no
others, and it backs the outcome that it gives. -/
theorem explanation_backs_outcome
    {scope : Scope}
    (distinct : scope.DistinctNames) (name : String) :
    ((scope.explain? name).isSome = true ↔ ∃ decl ∈ scope.reference, decl.fullName = name) ∧
      ∀ explanation, scope.explain? name = some explanation →
        ∃ decl ∈ scope.reference, decl.fullName = name ∧ scope.Backs decl explanation := by
  constructor
  · rw [Scope.explain?, Option.isSome_map, Option.isSome_iff_exists]
    simp only [Scope.reference?_eq_some_iff distinct]
  · intro explanation h
    obtain ⟨decl, hdecl, hname, hgathers⟩ := Scope.exists_gathers_of_explain?_eq_some distinct h
    exact ⟨decl, hdecl, hname, hgathers.backs distinct hdecl⟩

theorem explanation_backs_outcome_outer_entry :
    Scope.sample.DistinctNames ∧
      ∃ explanation, Scope.sample.explain? "a.Outer$Entry" = some explanation ∧
        ∃ decl ∈ Scope.sample.reference,
          decl.fullName = "a.Outer$Entry" ∧ Scope.sample.Backs decl explanation := by
  obtain ⟨hgiven, hbacks⟩ :=
    explanation_backs_outcome Scope.distinctNames_sample "a.Outer$Entry"
  have hlisted : ∃ decl ∈ Scope.sample.reference, decl.fullName = "a.Outer$Entry" :=
    ⟨.named .reference .classType "a.Outer$Entry", by decide +kernel, rfl⟩
  obtain ⟨explanation, hexplanation⟩ := Option.isSome_iff_exists.mp (hgiven.mpr hlisted)
  exact ⟨Scope.distinctNames_sample, explanation, hexplanation, hbacks explanation hexplanation⟩

end Counterpart
