import Counterpart.Proofs.Matching.Order

/-!
# The schedule of a matching

After the overrides come two steps: declared equivalents, then naming rules.  A pair is made at a
definite moment, which can be read off the finished matching: its reason gives the step, and
within a step the reference types have their turns in the order of their full names.

* `mem_run_iff`, `mem_poolAt_iff`: the pairs of a step, and those made before it, are the pairs
  of the matching with such reasons.
* `mem_freeAtTurn_iff`: with distinct full names, the targets that are free at the turn of a
  reference type are those that no pair of an earlier moment holds.
-/

namespace Counterpart

/-- A step in which pending reference types have turns. -/
inductive Step
  /-- Targets are accepted that declare the reference type as their equivalent. -/
  | equivalents
  /-- Targets are accepted that meet the reference type under a naming rule. -/
  | names
  deriving DecidableEq

/-- The place of a step, counted from the overrides. -/
def Step.rank : Step → Nat
  | equivalents => 1
  | names => 2

/-- The place of the step that gives a reason. -/
def Reason.rank : Reason → Nat
  | override => 0
  | declaredEquivalent => 1
  | heuristic _ => 2

/-- A target type was paired before the turn of a reference type in a step: in an earlier step,
or in the same one with a type whose full name comes before. -/
def Matching.TakenBefore
    (matching : Matching) (step : Step) (reference target : TypeDecl) :
    Prop :=
  ∃ pairing ∈ matching.matched,
    pairing.target = target ∧
      (pairing.reason.rank < step.rank ∨
        (pairing.reason.rank = step.rank ∧ pairing.reference.Precedes reference))

namespace Scope

/-- Whether a reference type accepts a target type in a step. -/
def accepts (scope : Scope) : Step → TypeDecl → TypeDecl → Bool
  | .equivalents, reference, target => declares reference target
  | .names, reference, target =>
      target.declaredEquivalent.isNone &&
        Rule.all.any fun rule => scope.follows rule reference target

/-- The reason for which a reference type accepts a target type in a step. -/
def reason? (scope : Scope) : Step → TypeDecl → TypeDecl → Option Reason
  | .equivalents => declaredReason
  | .names => scope.namedReason

theorem isSome_reason?
    (scope : Scope) (step : Step) (reference target : TypeDecl) :
    (scope.reason? step reference target).isSome = scope.accepts step reference target := by
  cases step with
  | equivalents =>
      cases h : declares reference target <;> simp [reason?, declaredReason, accepts, h]
  | names =>
      have hrules :
          (scope.rule? reference target).isSome =
            Rule.all.any fun rule => scope.follows rule reference target := by
        rw [Bool.eq_iff_iff, rule?, List.find?_isSome, List.any_eq_true]
      cases h : target.declaredEquivalent <;> simp [reason?, namedReason, accepts, hrules, h]

theorem rank_of_reason?_eq_some
    {scope : Scope} {step : Step} {reference target : TypeDecl} {reason : Reason}
    (h : scope.reason? step reference target = some reason) :
    reason.rank = step.rank := by
  cases step with
  | equivalents =>
      simp only [reason?, declaredReason, Option.ite_none_right_eq_some, Option.some.injEq] at h
      obtain ⟨_, rfl⟩ := h
      rfl
  | names =>
      simp only [reason?, namedReason, Option.ite_none_left_eq_some, Option.map_eq_some_iff] at h
      obtain ⟨_, rule, _, rfl⟩ := h
      rfl

/-- The pool with which a step starts. -/
def poolAt (scope : Scope) : Step → Pool
  | .equivalents => scope.overridden.1
  | .names => scope.overridden.1.advance declaredReason

theorem reached_poolAt
    (scope : Scope) (step : Step) :
    scope.Reached (scope.poolAt step) := by
  cases step with
  | equivalents =>
      exact scope.reached_overridden
  | names =>
      exact scope.reached_overridden.advance

/-- The run of turns that makes up a step. -/
def run (scope : Scope) (step : Step) : Pool :=
  Pool.settle (scope.reason? step) (scope.poolAt step).pending (scope.poolAt step).free

/-- The pairs of a matching: those of the overrides, then those of either step. -/
theorem matched_eq
    (scope : Scope) :
    scope.matching.matched =
      scope.overridden.1.pairs ++ (scope.run .equivalents).pairs ++ (scope.run .names).pairs :=
  rfl

/-- Overrides only make pairs by override, and leave no type ambiguous. -/
structure BeforeSteps (pool : Pool) : Prop where
  reason : ∀ pairing ∈ pool.pairs, pairing.reason = .override
  plain : ∀ entry ∈ pool.pending, entry.candidates = []

theorem BeforeSteps.ruling
    {earlier : List Override} {pool next : Pool} {entry : Override}
    (h : BeforeSteps pool)
    (ruling : Pool.Ruling earlier pool entry (.ok next)) :
    BeforeSteps next := by
  cases ruling with
  | @applied first reference before after pending =>
      constructor
      · intro pairing hpairing
        rcases List.mem_append.mp hpairing with hold | hnew
        · exact h.reason pairing hold
        · obtain rfl := List.mem_singleton.mp hnew
          rfl
      · intro left hleft
        refine h.plain left ?_
        rw [pending]
        exact ((List.sublist_cons_self reference after).append_left before).subset hleft

theorem beforeSteps_overridden
    (scope : Scope) :
    BeforeSteps scope.overridden.1 :=
  Pool.overrideAll_induction (motive := fun _ pool => BeforeSteps pool)
    ⟨by simp [Pool.ofTypes], by simp [Pool.ofTypes]⟩
    (fun h ruling => h.ruling ruling)
    (fun h _ => h)
    scope.settings.overrides

theorem rank_of_mem_overridden
    {scope : Scope} {pairing : Pairing}
    (h : pairing ∈ scope.overridden.1.pairs) :
    pairing.reason.rank = 0 := by
  rw [scope.beforeSteps_overridden.reason pairing h]
  rfl

theorem rank_of_mem_run
    {scope : Scope} {step : Step} {pairing : Pairing}
    (h : pairing ∈ (scope.run step).pairs) :
    pairing.reason.rank = step.rank := by
  obtain ⟨before, _, _, single⟩ := Pool.exists_turn_of_mem_pairs h
  have hcandidate := List.mem_singleton_self (pairing.target, pairing.reason)
  rw [← single, Pool.mem_candidates_iff] at hcandidate
  exact rank_of_reason?_eq_some hcandidate.2

/-- A matching lists the pairs made before a step, those of the step, and those made after it. -/
theorem exists_matched_eq
    (scope : Scope) (step : Step) :
    ∃ later,
      scope.matching.matched = (scope.poolAt step).pairs ++ (scope.run step).pairs ++ later ∧
        (∀ pairing ∈ (scope.poolAt step).pairs, pairing.reason.rank < step.rank) ∧
        ∀ pairing ∈ later, step.rank < pairing.reason.rank := by
  have hequivalent : ∀ pairing ∈ (scope.run .equivalents).pairs, pairing.reason.rank = 1 :=
    fun _ => rank_of_mem_run
  have hname : ∀ pairing ∈ (scope.run .names).pairs, pairing.reason.rank = 2 :=
    fun _ => rank_of_mem_run
  cases step with
  | equivalents =>
      refine ⟨(scope.run .names).pairs, scope.matched_eq, ?_, ?_⟩
      · intro pairing h
        have := rank_of_mem_overridden h
        simp only [Step.rank]
        omega
      · intro pairing h
        have := hname pairing h
        simp only [Step.rank]
        omega
  | names =>
      refine ⟨[], (scope.matched_eq).trans (List.append_nil _).symm, ?_, by simp⟩
      intro pairing h
      simp only [Step.rank]
      rcases List.mem_append.mp h with hoverride | hrun
      · have := rank_of_mem_overridden hoverride
        omega
      · have := hequivalent pairing hrun
        omega

/-- The pairs of a step are those of the matching with a reason of that step. -/
theorem mem_run_iff
    {scope : Scope} {step : Step} {pairing : Pairing} :
    pairing ∈ (scope.run step).pairs ↔
      pairing ∈ scope.matching.matched ∧ pairing.reason.rank = step.rank := by
  obtain ⟨later, hmatched, hbefore, hlater⟩ := scope.exists_matched_eq step
  rw [hmatched, List.mem_append, List.mem_append]
  constructor
  · intro h
    exact ⟨Or.inl (Or.inr h), rank_of_mem_run h⟩
  · rintro ⟨(h | h) | h, hrank⟩
    · have := hbefore pairing h
      omega
    · exact h
    · have := hlater pairing h
      omega

/-- The pairs made before a step are those of the matching with a reason of an earlier step. -/
theorem mem_poolAt_iff
    {scope : Scope} {step : Step} {pairing : Pairing} :
    pairing ∈ (scope.poolAt step).pairs ↔
      pairing ∈ scope.matching.matched ∧ pairing.reason.rank < step.rank := by
  obtain ⟨later, hmatched, hbefore, hlater⟩ := scope.exists_matched_eq step
  rw [hmatched, List.mem_append, List.mem_append]
  constructor
  · intro h
    exact ⟨Or.inl (Or.inl h), hbefore pairing h⟩
  · rintro ⟨(h | h) | h, hrank⟩
    · exact h
    · have := rank_of_mem_run h
      omega
    · have := hlater pairing h
      omega

/-- The targets that are free when a reference type has its turn in a step. -/
def freeAtTurn (scope : Scope) (step : Step) (reference : TypeDecl) : List TypeDecl :=
  (Pool.settle (scope.reason? step)
    ((scope.poolAt step).pending.takeWhile fun entry => entry.decl != reference)
    (scope.poolAt step).free).free

/-- The free targets that a reference type accepts at its turn in a step. -/
def acceptedAtTurn (scope : Scope) (step : Step) (reference : TypeDecl) : List TypeDecl :=
  (scope.freeAtTurn step reference).filter fun target => scope.accepts step reference target

theorem map_fst_candidates_eq
    (scope : Scope) (step : Step) (reference : TypeDecl) :
    (Pool.candidates (scope.reason? step) reference (scope.freeAtTurn step reference)).map
        Prod.fst =
      scope.acceptedAtTurn step reference := by
  rw [Pool.map_fst_candidates, acceptedAtTurn]
  simp only [isSome_reason?]

section Turns

variable {scope : Scope} (distinct : scope.DistinctNames)
include distinct

/-- The turns before that of a reference type are those of the pending types in front of it. -/
theorem freeAtTurn_eq
    {step : Step} {before after : List Pending} {origin : Pending}
    (h : (scope.poolAt step).pending = before ++ origin :: after) :
    scope.freeAtTurn step origin.decl =
      (Pool.settle (scope.reason? step) before (scope.poolAt step).free).free := by
  have hascending := (scope.reached_poolAt step).pending_ascending distinct
  rw [h, List.map_append, List.map_cons, List.pairwise_append] at hascending
  have hbefore : ∀ entry ∈ before, (entry.decl != origin.decl) = true := by
    intro entry hentry
    have hprecedes := hascending.2.2 entry.decl (List.mem_map_of_mem hentry) origin.decl
      (List.mem_cons_self ..)
    simpa using hprecedes.ne
  unfold freeAtTurn
  rw [h, List.takeWhile_append_of_pos hbefore, List.takeWhile_cons_of_neg (by simp),
    List.append_nil]

/-- The target of a step's pair is the only free one that its reference type accepts when it has
its turn. -/
theorem acceptedAtTurn_of_mem_run
    {step : Step} {pairing : Pairing}
    (h : pairing ∈ (scope.run step).pairs) :
    scope.acceptedAtTurn step pairing.reference = [pairing.target] := by
  obtain ⟨before, after, hpending, single⟩ := Pool.exists_turn_of_mem_pairs h
  have hfree := freeAtTurn_eq distinct hpending
  rw [← map_fst_candidates_eq, hfree, single]
  rfl

/-- The run of a step divides at a turn: the pairs made before it are those of reference types
that come before in the order of names. -/
theorem exists_run_split
    {step : Step} {reference : TypeDecl}
    (pending : reference ∈ (scope.poolAt step).pending.map Pending.decl) :
    ∃ first rest : Pool,
      scope.freeAtTurn step reference = first.free ∧
        first.targets.Perm (scope.poolAt step).free ∧
        (scope.run step).pairs = first.pairs ++ rest.pairs ∧
        (∀ pairing ∈ first.pairs, pairing.reference.Precedes reference) ∧
        ∀ pairing ∈ rest.pairs, ¬ pairing.reference.Precedes reference := by
  obtain ⟨origin, horigin, rfl⟩ := List.mem_map.mp pending
  obtain ⟨before, after, hpending⟩ := List.append_of_mem horigin
  have hascending := (scope.reached_poolAt step).pending_ascending distinct
  rw [hpending, List.map_append, List.map_cons, List.pairwise_append,
    List.pairwise_cons] at hascending
  obtain ⟨_, ⟨hafter, _⟩, hbefore⟩ := hascending
  refine ⟨Pool.settle (scope.reason? step) before (scope.poolAt step).free,
    Pool.settle (scope.reason? step) (origin :: after)
      (Pool.settle (scope.reason? step) before (scope.poolAt step).free).free,
    freeAtTurn_eq distinct hpending, ?_, ?_, ?_, ?_⟩
  · exact (Pool.conserves_settle before (scope.poolAt step).free).targets
  · rw [run, hpending, Pool.settle_append]
    rfl
  · intro pairing h
    exact hbefore _ (Pool.reference_mem_of_mem_pairs h) _ (List.mem_cons_self ..)
  · intro pairing h hprecedes
    rcases List.mem_cons.mp (Pool.reference_mem_of_mem_pairs h) with hown | hlater
    · exact hprecedes.ne hown
    · exact hprecedes.asymm (hafter _ hlater)

/-- The targets that are free at the turn of a reference type are those that no pair of an earlier
moment holds. -/
theorem mem_freeAtTurn_iff
    {step : Step} {reference target : TypeDecl}
    (pending : reference ∈ (scope.poolAt step).pending.map Pending.decl) :
    target ∈ scope.freeAtTurn step reference ↔
      target ∈ scope.target ∧ ¬ scope.matching.TakenBefore step reference target := by
  obtain ⟨first, rest, hfree, hfirst, hrun, hbefore, hrest⟩ := exists_run_split distinct pending
  have hreached := scope.reached_poolAt step
  rw [hfree, hreached.mem_target_iff]
  constructor
  · intro hmem
    have hpool : target ∈ (scope.poolAt step).free :=
      hfirst.mem_iff.mp (List.mem_append_right _ hmem)
    refine ⟨Or.inr hpool, ?_⟩
    rintro ⟨pairing, hmatched, rfl, hearlier | ⟨hsame, hprecedes⟩⟩
    · exact hreached.target_not_mem_free distinct (mem_poolAt_iff.mpr ⟨hmatched, hearlier⟩) hpool
    · have hpair := mem_run_iff.mpr ⟨hmatched, hsame⟩
      rw [hrun, List.mem_append] at hpair
      rcases hpair with hpair | hpair
      · have hpool_nodup : (scope.poolAt step).free.Nodup :=
          (List.nodup_append.mp (hreached.nodup_targets distinct)).2.1
        have hturns : first.targets.Nodup := hfirst.nodup_iff.mpr hpool_nodup
        exact (List.nodup_append.mp hturns).2.2 _ (List.mem_map_of_mem hpair) _ hmem rfl
      · exact hrest pairing hpair hprecedes
  · rintro ⟨⟨pairing, hpair, rfl⟩ | hpool, huntaken⟩
    · obtain ⟨hmatched, hearlier⟩ := mem_poolAt_iff.mp hpair
      exact absurd ⟨pairing, hmatched, rfl, Or.inl hearlier⟩ huntaken
    · rcases List.mem_append.mp (hfirst.mem_iff.mpr hpool) with hpaired | hmem
      · obtain ⟨pairing, hpair, rfl⟩ := List.mem_map.mp hpaired
        have hstep : pairing ∈ (scope.run step).pairs := by
          rw [hrun]
          exact List.mem_append_left _ hpair
        obtain ⟨hmatched, hsame⟩ := mem_run_iff.mp hstep
        exact absurd ⟨pairing, hmatched, rfl, Or.inr ⟨hsame, hbefore pairing hpair⟩⟩ huntaken
      · exact hmem

end Turns

section Sample

/-- A scope in which every kind of turn occurs.  An override pairs `a.Alpha` and a declared
equivalent `a.Beta`.  Of the others, `a.Outer$Entry` is ambiguous before `a.Zeta$Entry` takes one
of its candidates, and `a.Item` takes a target that `a.Zeta$Item` accepts too. -/
def sample : Scope :=
  { settings :=
      { overrides := [⟨"a.Alpha", "A.Renamed", none⟩, ⟨"a.Alpha", "A.Other", none⟩] }
    reference :=
      ["a.Alpha", "a.Beta", "a.Item", "a.Lonely", "a.Outer$Entry", "a.Zeta$Entry",
        "a.Zeta$Item"].map (.named .reference .classType)
    target :=
      { TypeDecl.named .target .classType "A.Bound" with
          declaredEquivalent := some ⟨"a", "Beta"⟩ } ::
        ["A.Entry", "A.Item", "A.Other", "A.Outer_Entry", "A.Renamed", "A.Zeta_Item"].map
          (.named .target .classType) }

theorem distinctNames_sample :
    sample.DistinctNames :=
  ⟨by decide +kernel, by decide +kernel⟩

theorem settled_sample :
    sample.settled =
      { pending :=
          [⟨.named .reference .classType "a.Lonely", []⟩,
            ⟨.named .reference .classType "a.Outer$Entry",
              ["A.Entry", "A.Outer_Entry"].map (.named .target .classType)⟩]
        free := ["A.Other", "A.Outer_Entry"].map (.named .target .classType)
        pairs :=
          [⟨.named .reference .classType "a.Alpha", .named .target .classType "A.Renamed",
              .override⟩,
            ⟨.named .reference .classType "a.Beta",
              { TypeDecl.named .target .classType "A.Bound" with
                  declaredEquivalent := some ⟨"a", "Beta"⟩ },
              .declaredEquivalent⟩,
            ⟨.named .reference .classType "a.Item", .named .target .classType "A.Item",
              .heuristic .exactName⟩,
            ⟨.named .reference .classType "a.Zeta$Entry", .named .target .classType "A.Entry",
              .heuristic .flattenedNesting⟩,
            ⟨.named .reference .classType "a.Zeta$Item", .named .target .classType "A.Zeta_Item",
              .heuristic .flattenedNesting⟩] } := by
  rw [settled, overridden, Pool.ofTypes_of_ordered (by decide +kernel) (by decide +kernel)]
  decide +kernel

end Sample

end Scope
end Counterpart
