import Counterpart.Proofs.Matching.Schedule

/-!
# Ambiguous types

A left-over reference type is decided by one of its turns: there it found no open target or
several, and it lists them all.  With distinct full names on either side, the lists of the two
sides agree, whatever is paired after the turn.

* `exists_decided`: every left-over reference type is decided by a step.
* `tagged_left`, `tagged_right`: what a left-over type of either side lists.
-/

namespace Counterpart

/-- A target type was paired with another type after the turn of a reference type in a step: in a
later step, or in the same one with a type whose full name comes after. -/
def Matching.TakenAfter
    (matching : Matching) (step : Step) (reference target : TypeDecl) :
    Prop :=
  ∃ pairing ∈ matching.matched,
    pairing.target = target ∧
      pairing.reference ≠ reference ∧
      (step.rank < pairing.reason.rank ∨
        (pairing.reason.rank = step.rank ∧ reference.Precedes pairing.reference))

namespace Scope

/-- A target type is open to a reference type in a step: it is accepted, and no pair holds it when
the reference type has its turn. -/
structure Open (scope : Scope) (step : Step) (reference target : TypeDecl) : Prop where
  listed : target ∈ scope.target
  accepted : scope.accepts step reference target = true
  untaken : ¬ scope.matching.TakenBefore step reference target

/-- A reference type that is left over has a turn in the step of naming rules if no target was
open to it in the step of declared equivalents. -/
def HasTurn (scope : Scope) : Step → TypeDecl → Prop
  | .equivalents, _ => True
  | .names, reference => ∀ target, ¬ scope.Open .equivalents reference target

/-- What a left-over reference type lists. -/
structure TagsReference (scope : Scope) (left : Unmatched) : Prop where
  ambiguous_iff :
    left.candidates ≠ [] ↔
      ∃ step, scope.HasTurn step left.decl ∧
        ∃ first second, first ≠ second ∧
          scope.Open step left.decl first ∧ scope.Open step left.decl second
  mem_iff :
    ∀ step, scope.HasTurn step left.decl → (∃ target, scope.Open step left.decl target) →
      ∀ name, name ∈ left.candidates ↔
        ∃ target, scope.Open step left.decl target ∧ target.fullName = name
  ascending : left.candidates.Pairwise (· < ·)
  /-- A target that was open is either left over in turn, or in a pair made later. -/
  divided :
    ∀ step target, scope.HasTurn step left.decl → scope.Open step left.decl target →
      ((∃ right ∈ scope.matching.unmatchedTarget,
          right.decl = target ∧ left.decl.fullName ∈ right.candidates) ∧
        ∀ pairing ∈ scope.matching.matched, pairing.target ≠ target) ∨
      (scope.matching.TakenAfter step left.decl target ∧
        ∀ right ∈ scope.matching.unmatchedTarget, right.decl ≠ target)

/-- What a left-over target type lists. -/
structure TagsTarget (scope : Scope) (right : Unmatched) : Prop where
  mem_iff :
    ∀ name, name ∈ right.candidates ↔
      ∃ left ∈ scope.matching.unmatchedReference,
        left.decl.fullName = name ∧ right.decl.fullName ∈ left.candidates
  ascending : right.candidates.Pairwise (· < ·)

/-- What a pending type lists are the targets that were open to it in a step, none or several. -/
structure Lists (scope : Scope) (step : Step) (entry : Pending) : Prop where
  mem_iff : ∀ target, target ∈ entry.candidates ↔ scope.Open step entry.decl target
  several : entry.candidates.length ≠ 1
  ascending : entry.candidates.Pairwise TypeDecl.Precedes

section Distinct

variable {scope : Scope} (distinct : scope.DistinctNames)
include distinct

theorem mem_acceptedAtTurn_iff
    {step : Step} {reference target : TypeDecl}
    (pending : reference ∈ (scope.poolAt step).pending.map Pending.decl) :
    target ∈ scope.acceptedAtTurn step reference ↔ scope.Open step reference target := by
  rw [acceptedAtTurn, List.mem_filter, mem_freeAtTurn_iff distinct pending]
  constructor
  · rintro ⟨⟨listed, untaken⟩, accepted⟩
    exact ⟨listed, accepted, untaken⟩
  · rintro ⟨listed, accepted, untaken⟩
    exact ⟨⟨listed, untaken⟩, accepted⟩

theorem acceptedAtTurn_ascending
    (step : Step) (reference : TypeDecl) :
    (scope.acceptedAtTurn step reference).Pairwise TypeDecl.Precedes := by
  refine ((scope.reached_poolAt step).free_ascending distinct).sublist ?_
  exact List.filter_sublist.trans (Pool.free_settle_sublist _ _)

/-- A type that a step leaves pending was passed over, or lists what was open to it. -/
theorem exists_origin_of_mem_pending
    {step : Step} {entry : Pending}
    (h : entry ∈ (scope.run step).pending) :
    ∃ origin ∈ (scope.poolAt step).pending,
      origin.decl = entry.decl ∧
        ((origin.candidates ≠ [] ∧ entry = origin) ∨
          (origin.candidates = [] ∧ scope.Lists step entry)) := by
  obtain ⟨before, origin, after, hpending, hturn⟩ := Pool.exists_turn_of_mem_pending h
  have horigin : origin ∈ (scope.poolAt step).pending := by
    rw [hpending]
    simp
  have hfree := freeAtTurn_eq distinct hpending
  have turn := Pool.turn_settle (scope.reason? step) origin
    (Pool.settle (scope.reason? step) before (scope.poolAt step).free).free
  obtain ⟨hdecl, hpassed | ⟨fresh, hcandidates, hseveral⟩⟩ :=
    turn.candidates_of_mem_pending hturn
  · exact ⟨origin, horigin, hdecl.symm, Or.inl hpassed⟩
  · rw [← hfree, map_fst_candidates_eq, ← hdecl] at hcandidates
    refine ⟨origin, horigin, hdecl.symm, Or.inr ⟨fresh, ?_, hseveral, ?_⟩⟩
    · intro target
      rw [hcandidates]
      refine mem_acceptedAtTurn_iff distinct ?_
      rw [hdecl]
      exact List.mem_map_of_mem horigin
    · rw [hcandidates]
      exact acceptedAtTurn_ascending distinct _ _

/-- A type that is pending before the step of naming rules lists what was open to it in that of
declared equivalents. -/
theorem lists_of_mem_poolAt_names
    {entry : Pending}
    (h : entry ∈ (scope.poolAt .names).pending) :
    scope.Lists .equivalents entry := by
  have hrun : entry ∈ (scope.run .equivalents).pending := h
  obtain ⟨origin, horigin, _, ⟨ambiguous, _⟩ | ⟨_, hlists⟩⟩ :=
    exists_origin_of_mem_pending distinct hrun
  · exact absurd (scope.beforeSteps_overridden.plain origin horigin) ambiguous
  · exact hlists

end Distinct

/-- A step decides a type that is left over: the type had a turn in the step, lists what was open
to it there, and no target was open to it in another step. -/
structure Decided (scope : Scope) (step : Step) (entry : Pending) : Prop
    extends scope.Lists step entry where
  turn : scope.HasTurn step entry.decl
  only : ∀ other target,
    scope.HasTurn other entry.decl → scope.Open other entry.decl target → other = step

section Distinct

variable {scope : Scope} (distinct : scope.DistinctNames)
include distinct

/-- Every left-over reference type is decided by a step. -/
theorem exists_decided
    {entry : Pending}
    (h : entry ∈ scope.settled.pending) :
    ∃ step, scope.Decided step entry := by
  have hrun : entry ∈ (scope.run .names).pending := h
  obtain ⟨origin, horigin, hdecl, hcases⟩ := exists_origin_of_mem_pending distinct hrun
  have hlists := lists_of_mem_poolAt_names distinct horigin
  rcases hcases with ⟨ambiguous, rfl⟩ | ⟨plain, hnamed⟩
  · refine ⟨.equivalents, hlists, trivial, ?_⟩
    intro other target hturn _
    cases other with
    | equivalents =>
        rfl
    | names =>
        obtain ⟨candidate, hcandidate⟩ := List.exists_mem_of_ne_nil _ ambiguous
        exact absurd ((hlists.mem_iff candidate).mp hcandidate) (hturn candidate)
  · have hnone : ∀ target, ¬ scope.Open .equivalents entry.decl target := by
      intro target htarget
      rw [← hdecl] at htarget
      have hmem := (hlists.mem_iff target).mpr htarget
      rw [plain] at hmem
      exact absurd hmem List.not_mem_nil
    refine ⟨.names, hnamed, hnone, ?_⟩
    intro other target _ htarget
    cases other with
    | names =>
        rfl
    | equivalents =>
        exact absurd htarget (hnone target)

end Distinct

/-- A type has candidates if and only if two targets were open to it. -/
theorem Lists.ambiguous_iff
    {scope : Scope} {step : Step} {entry : Pending}
    (h : scope.Lists step entry) :
    entry.candidates ≠ [] ↔
      ∃ first second, first ≠ second ∧
        scope.Open step entry.decl first ∧ scope.Open step entry.decl second := by
  simp only [← h.mem_iff]
  constructor
  · intro ambiguous
    have hseveral := h.several
    have hascending := h.ascending
    rcases hcandidates : entry.candidates with _ | ⟨first, _ | ⟨second, others⟩⟩
    · exact absurd hcandidates ambiguous
    · simp [hcandidates] at hseveral
    · rw [hcandidates, List.pairwise_cons] at hascending
      have hprecedes := hascending.1 second (List.mem_cons_self ..)
      exact ⟨first, second, hprecedes.ne, by simp, by simp⟩
  · rintro ⟨first, _, _, hfirst, _⟩
    exact List.ne_nil_of_mem hfirst

section Distinct

variable {scope : Scope} (distinct : scope.DistinctNames)
include distinct

/-- A pair that holds a target open to a left-over type was made after the turn of that type. -/
theorem Open.takenAfter
    {step : Step} {entry : Pending} {pairing : Pairing}
    (h : scope.Open step entry.decl pairing.target)
    (hentry : entry ∈ scope.settled.pending)
    (hpairing : pairing ∈ scope.matching.matched) :
    scope.matching.TakenAfter step entry.decl pairing.target := by
  have hreached := scope.reached_settled
  have hother : pairing.reference ≠ entry.decl :=
    hreached.reference_ne_decl distinct hpairing hentry
  have hearlier : ¬ pairing.reason.rank < step.rank := by
    intro hrank
    exact h.untaken ⟨pairing, hpairing, rfl, Or.inl hrank⟩
  refine ⟨pairing, hpairing, rfl, hother, ?_⟩
  by_cases hsame : pairing.reason.rank = step.rank
  · right
    have hbefore : ¬ pairing.reference.Precedes entry.decl := by
      intro hprecedes
      exact h.untaken ⟨pairing, hpairing, rfl, Or.inr ⟨hsame, hprecedes⟩⟩
    have hnames : pairing.reference.fullName ≠ entry.decl.fullName := by
      have hpaired : pairing.reference ∈ scope.reference :=
        hreached.mem_reference_iff.mpr (Or.inl ⟨pairing, hpairing, rfl⟩)
      have hleft : entry.decl ∈ scope.reference :=
        hreached.mem_reference_iff.mpr (Or.inr ⟨entry, hentry, rfl⟩)
      exact fun same => hother (distinct.reference_eq hpaired hleft same)
    exact ⟨hsame, lt_of_le_of_ne (not_lt.mp hbefore) hnames.symm⟩
  · left
    omega

/-- What a left-over reference type lists. -/
theorem tagged_left
    {left : Unmatched}
    (h : left ∈ scope.matching.unmatchedReference) :
    scope.TagsReference left := by
  obtain ⟨entry, hentry, rfl⟩ := List.mem_map.mp h
  obtain ⟨step, decided⟩ := exists_decided distinct hentry
  refine ⟨?_, ?_, ?_, ?_⟩
  · rw [ne_eq, List.map_eq_nil_iff, ← ne_eq, decided.ambiguous_iff]
    constructor
    · rintro ⟨first, second, hne, hfirst, hsecond⟩
      exact ⟨step, decided.turn, first, second, hne, hfirst, hsecond⟩
    · rintro ⟨other, hturn, first, second, hne, hfirst, hsecond⟩
      obtain rfl := decided.only other first hturn hfirst
      exact ⟨first, second, hne, hfirst, hsecond⟩
  · rintro other hturn ⟨target, htarget⟩ name
    obtain rfl := decided.only other target hturn htarget
    simp only [List.mem_map, decided.mem_iff]
  · exact List.pairwise_map.mpr decided.ascending
  · intro other target hturn htarget
    obtain rfl := decided.only other target hturn htarget
    have hreached := scope.reached_settled
    rcases hreached.mem_target_iff.mp htarget.listed with ⟨pairing, hpairing, rfl⟩ | hfree
    · right
      refine ⟨htarget.takenAfter distinct hentry hpairing, ?_⟩
      intro right hright hsame
      obtain ⟨free, hfree, rfl⟩ := List.mem_map.mp hright
      obtain rfl : free = pairing.target := hsame
      exact hreached.target_not_mem_free distinct hpairing hfree
    · left
      refine ⟨⟨_, List.mem_map_of_mem hfree, rfl, ?_⟩, ?_⟩
      · refine List.mem_map_of_mem (List.mem_filter.mpr ⟨hentry, ?_⟩)
        simpa using (decided.mem_iff target).mpr htarget
      · rintro pairing hpairing rfl
        exact hreached.target_not_mem_free distinct hpairing hfree

/-- What a left-over target type lists. -/
theorem tagged_right
    {right : Unmatched}
    (h : right ∈ scope.matching.unmatchedTarget) :
    scope.TagsTarget right := by
  obtain ⟨target, hfree, rfl⟩ := List.mem_map.mp h
  constructor
  · intro name
    constructor
    · intro hname
      obtain ⟨entry, hentry, rfl⟩ := List.mem_map.mp hname
      obtain ⟨hpending, hlists⟩ := List.mem_filter.mp hentry
      have hcandidate : target ∈ entry.candidates := by
        simpa using hlists
      exact ⟨_, List.mem_map_of_mem hpending, rfl, List.mem_map_of_mem hcandidate⟩
    · rintro ⟨left, hleft, rfl, hlists⟩
      obtain ⟨entry, hentry, rfl⟩ := List.mem_map.mp hleft
      obtain ⟨candidate, hcandidate, hnames⟩ := List.mem_map.mp hlists
      obtain ⟨step, decided⟩ := exists_decided distinct hentry
      have hlisted := ((decided.mem_iff candidate).mp hcandidate).listed
      have htarget : target ∈ scope.target :=
        scope.reached_settled.mem_target_iff.mpr (Or.inr hfree)
      obtain rfl := distinct.target_eq hlisted htarget hnames
      refine List.mem_map_of_mem (List.mem_filter.mpr ⟨hentry, ?_⟩)
      simpa using hcandidate
  · have hpending := scope.reached_settled.pending_ascending distinct
    refine List.pairwise_map.mpr ?_
    exact (List.pairwise_map.mp hpending).sublist List.filter_sublist

end Distinct

end Scope

/-- With distinct full names, the lists of candidates of a matching are exact on both sides. -/
theorem matching_tags_ambiguities
    {scope : Scope}
    (distinct : scope.DistinctNames) :
    (∀ left ∈ scope.matching.unmatchedReference, scope.TagsReference left) ∧
      ∀ right ∈ scope.matching.unmatchedTarget, scope.TagsTarget right :=
  ⟨fun _ => Scope.tagged_left distinct, fun _ => Scope.tagged_right distinct⟩

theorem matching_tags_ambiguities_outer_entry :
    Scope.sample.TagsReference
        ⟨.named .reference .classType "a.Outer$Entry", ["A.Entry", "A.Outer_Entry"]⟩ ∧
      Scope.sample.TagsTarget
        ⟨.named .target .classType "A.Outer_Entry", ["a.Outer$Entry"]⟩ := by
  have htags := matching_tags_ambiguities Scope.distinctNames_sample
  constructor
  · refine htags.1 _ ?_
    rw [Scope.matching, Scope.settled_sample]
    decide +kernel
  · refine htags.2 _ ?_
    rw [Scope.matching, Scope.settled_sample]
    decide +kernel

end Counterpart
