import Counterpart.Proofs.Matching.Ambiguity

/-!
# Types that take no part in a matching

A type that no override names, and that accepts no type of the other side or is accepted by none, is
a bystander: with it or without it, every override is ruled on in the same way and every turn has
the same outcome.  So taking bystanders out commutes with all that happens to a pool.  The matching
of more types is the matching of the others, and the bystanders are left over.

* `Pool.settle_filter`, `Pool.overrideAll_restrict`: steps and overrides pass bystanders by.
* `matching_restrict`: so does a matching.
* `matching_ignores_bystanders`: one more type of either side is only left over.
-/

namespace Counterpart

theorem extractLast?_filter
    {α : Type} {test keep : α → Bool} {l : List α}
    (kept : ∀ a ∈ l, test a = true → keep a = true) :
    extractLast? test (l.filter keep) =
      (extractLast? test l).map fun found => (found.1, found.2.filter keep) := by
  induction l with
  | nil =>
      rfl
  | cons a rest ih =>
      have ih := ih fun b hb => kept b (List.mem_cons_of_mem a hb)
      cases hkeep : keep a with
      | true =>
          rw [List.filter_cons_of_pos hkeep, extractLast?, extractLast?, ih]
          cases extractLast? test rest with
          | none =>
              cases htest : test a <;> simp
          | some found =>
              simp [hkeep]
      | false =>
          have htest : test a = false := by
            by_contra h
            simp [kept a (List.mem_cons_self ..) (by simpa using h)] at hkeep
          rw [List.filter_cons_of_neg (by simp [hkeep]), extractLast?, ih]
          cases extractLast? test rest with
          | none =>
              simp [htest]
          | some found =>
              simp [hkeep]

namespace Pool

section Restrict

variable (keepReference keepTarget : TypeDecl → Bool)

/-- A pool without the unpaired types that are not kept. -/
def restrict (pool : Pool) : Pool :=
  { pending := pool.pending.filter fun entry => keepReference entry.decl
    free := pool.free.filter keepTarget
    pairs := pool.pairs }

theorem restrict_followedBy
    (first second : Pool) :
    (first.followedBy second).restrict keepReference keepTarget =
      (first.restrict keepReference keepTarget).followedBy
        (second.restrict keepReference keepTarget) := by
  simp [restrict, followedBy]

variable {keepReference keepTarget}

section Overrides

variable {pool : Pool}

theorem overrideWith_restrict
    {earlier : List Override} {entry : Override}
    (keptReference :
      ∀ other ∈ pool.pending, other.decl.fullName = entry.reference →
        keepReference other.decl = true)
    (keptTarget :
      ∀ other ∈ pool.free, other.fullName = entry.target → keepTarget other = true) :
    (pool.restrict keepReference keepTarget).overrideWith earlier entry =
      (pool.overrideWith earlier entry).map (restrict keepReference keepTarget) := by
  have hreference :
      extractLast? (fun other => other.decl.fullName == entry.reference)
          (pool.pending.filter fun other => keepReference other.decl) =
        (extractLast? (fun other => other.decl.fullName == entry.reference) pool.pending).map
          fun found => (found.1, found.2.filter fun other => keepReference other.decl) :=
    extractLast?_filter fun other hother hnamed =>
      keptReference other hother (by simpa using hnamed)
  have htarget :
      extractLast? (fun other => other.fullName == entry.target) (pool.free.filter keepTarget) =
        (extractLast? (fun other => other.fullName == entry.target) pool.free).map
          fun found => (found.1, found.2.filter keepTarget) :=
    extractLast?_filter fun other hother hmeant => keptTarget other hother (by simpa using hmeant)
  unfold overrideWith
  split
  · rfl
  · rw [restrict, hreference]
    cases extractLast? (fun other => other.decl.fullName == entry.reference) pool.pending with
    | none =>
        rfl
    | some reference =>
        simp only [Option.map_some]
        cases pool.pairs.find? (fun other => other.target.fullName == entry.target) with
        | some owner =>
            rfl
        | none =>
            simp only [htarget]
            cases extractLast? (fun other => other.fullName == entry.target) pool.free <;> rfl

/-- Overrides that name only types which are kept are ruled on without the others as with them. -/
theorem overrideAll_restrict
    {earlier overrides : List Override}
    (keptReference :
      ∀ decl, keepReference decl = false → ∀ entry ∈ overrides, entry.reference ≠ decl.fullName)
    (keptTarget :
      ∀ decl, keepTarget decl = false → ∀ entry ∈ overrides, entry.target ≠ decl.fullName) :
    (pool.restrict keepReference keepTarget).overrideAll earlier overrides =
      ((pool.overrideAll earlier overrides).1.restrict keepReference keepTarget,
        (pool.overrideAll earlier overrides).2) := by
  induction overrides generalizing earlier pool with
  | nil =>
      rfl
  | cons entry rest ih =>
      have hrest (next : Pool) :
          (next.restrict keepReference keepTarget).overrideAll (entry :: earlier) rest =
            ((next.overrideAll (entry :: earlier) rest).1.restrict keepReference keepTarget,
              (next.overrideAll (entry :: earlier) rest).2) := by
        refine ih ?_ ?_
        · intro decl hdecl other hother
          exact keptReference decl hdecl other (List.mem_cons_of_mem entry hother)
        · intro decl hdecl other hother
          exact keptTarget decl hdecl other (List.mem_cons_of_mem entry hother)
      have hentry :
          (pool.restrict keepReference keepTarget).overrideWith earlier entry =
            (pool.overrideWith earlier entry).map (restrict keepReference keepTarget) := by
        refine overrideWith_restrict ?_ ?_
        · intro other _ hnamed
          by_contra hdropped
          exact keptReference other.decl (by simpa using hdropped) entry
            (List.mem_cons_self ..) hnamed.symm
        · intro other _ hmeant
          by_contra hdropped
          exact keptTarget other (by simpa using hdropped) entry
            (List.mem_cons_self ..) hmeant.symm
      unfold overrideAll
      rw [hentry]
      cases pool.overrideWith earlier entry with
      | ok next =>
          exact hrest next
      | error warning =>
          simp only [Except.map, hrest pool]

end Overrides

section Steps

variable {accepts : TypeDecl → TypeDecl → Option Reason} {free : List TypeDecl}

theorem candidates_filter
    {reference : TypeDecl}
    (refused : ∀ target ∈ free, keepTarget target = false → accepts reference target = none) :
    candidates accepts reference (free.filter keepTarget) = candidates accepts reference free := by
  unfold candidates
  rw [List.filterMap_filter]
  refine List.filterMap_congr fun target htarget => ?_
  cases hkeep : keepTarget target with
  | true =>
      simp
  | false =>
      simp [refused target htarget hkeep]

/-- The turn of a type that is kept is the same without the targets that it refuses. -/
theorem settle_singleton_filter
    {entry : Pending}
    (kept : keepReference entry.decl = true)
    (refused : ∀ target ∈ free, keepTarget target = false → accepts entry.decl target = none) :
    settle accepts [entry] (free.filter keepTarget) =
      (settle accepts [entry] free).restrict keepReference keepTarget := by
  have hcandidates := candidates_filter refused
  cases hpassed : entry.isAmbiguous with
  | true =>
      simp [settle, hpassed, hold, restrict, kept]
  | false =>
      rcases hfound : candidates accepts entry.decl free with
        _ | ⟨⟨target, reason⟩, _ | ⟨second, others⟩⟩
      · simp [settle, hpassed, hcandidates, hfound, hold, restrict, kept]
      · simp [settle, hpassed, hcandidates, hfound, pair, restrict, List.filter_filter,
          Bool.and_comm]
      · simp [settle, hpassed, hcandidates, hfound, hold, restrict, kept]

/-- The turn of a type that refuses all free targets leaves everything as it is. -/
theorem settle_singleton_of_refused
    {entry : Pending}
    (refused : ∀ target ∈ free, accepts entry.decl target = none) :
    settle accepts [entry] free = ⟨[entry], free, []⟩ := by
  have hnone := candidates_eq_nil_iff.mpr refused
  cases hpassed : entry.isAmbiguous <;> simp [settle, hpassed, hnone, hold]

/-- A step makes the same turns without the types that have nothing to do with the others. -/
theorem settle_filter
    {pending : List Pending}
    (apart :
      ∀ entry ∈ pending, ∀ target ∈ free,
        (keepReference entry.decl && keepTarget target) = false →
          accepts entry.decl target = none) :
    settle accepts (pending.filter fun entry => keepReference entry.decl)
        (free.filter keepTarget) =
      (settle accepts pending free).restrict keepReference keepTarget := by
  induction pending generalizing free with
  | nil =>
      rfl
  | cons entry rest ih =>
      have hfirst := apart entry (List.mem_cons_self ..)
      have hfree := (turn_settle accepts entry free).free_sublist.subset
      have hrest :=
        ih fun other hother target htarget =>
          apart other (List.mem_cons_of_mem entry hother) target (hfree htarget)
      rw [settle_cons entry rest, restrict_followedBy, ← hrest]
      cases hkeep : keepReference entry.decl with
      | true =>
          rw [List.filter_cons, if_pos hkeep, settle_cons,
            settle_singleton_filter hkeep fun target htarget hdropped =>
              hfirst target htarget (by simp [hdropped])]
          rfl
      | false =>
          have hturn : settle accepts [entry] free = ⟨[entry], free, []⟩ :=
            settle_singleton_of_refused fun target htarget =>
              hfirst target htarget (by simp [hkeep])
          rw [List.filter_cons, if_neg (by simp [hkeep]), hturn]
          simp [restrict, followedBy, hkeep]

theorem advance_restrict
    {pool : Pool}
    (apart :
      ∀ entry ∈ pool.pending, ∀ target ∈ pool.free,
        (keepReference entry.decl && keepTarget target) = false →
          accepts entry.decl target = none) :
    (pool.restrict keepReference keepTarget).advance accepts =
      (pool.advance accepts).restrict keepReference keepTarget := by
  have hsettle := settle_filter apart
  simp only [advance, restrict] at hsettle ⊢
  rw [hsettle]

end Steps

end Restrict

/-- Sorting the types that are kept is the same as keeping them when all are sorted. -/
theorem sortByName_filter
    (types : List TypeDecl) (keep : TypeDecl → Bool) :
    ofTypes.sortByName (types.filter keep) = (ofTypes.sortByName types).filter keep :=
  mergeSort_filter (compareOn TypeDecl.fullName) types keep

end Pool

namespace Scope

/-- A scope without the types that are not kept. -/
def restrict (scope : Scope) (keepReference keepTarget : TypeDecl → Bool) : Scope :=
  { scope with
    reference := scope.reference.filter keepReference
    target := scope.target.filter keepTarget }

/-- The types that are not kept are named by no override, and neither accept nor are accepted. -/
structure Bystanders (scope : Scope) (keepReference keepTarget : TypeDecl → Bool) : Prop where
  reference_unnamed :
    ∀ decl, keepReference decl = false →
      ∀ entry ∈ scope.settings.overrides, entry.reference ≠ decl.fullName
  target_unnamed :
    ∀ decl, keepTarget decl = false →
      ∀ entry ∈ scope.settings.overrides, entry.target ≠ decl.fullName
  apart :
    ∀ reference ∈ scope.reference, ∀ target ∈ scope.target,
      (keepReference reference && keepTarget target) = false →
        ∀ step, scope.accepts step reference target = false

section Bystanders

variable {scope : Scope} {keepReference keepTarget : TypeDecl → Bool}
  (distinct : scope.DistinctNames) (h : scope.Bystanders keepReference keepTarget)

include h in
/-- When a step starts, a bystander and a type of the other side have no reason to be paired. -/
theorem Bystanders.reason?_eq_none
    (step : Step) :
    ∀ entry ∈ (scope.poolAt step).pending, ∀ target ∈ (scope.poolAt step).free,
      (keepReference entry.decl && keepTarget target) = false →
        scope.reason? step entry.decl target = none := by
  intro entry hentry target htarget hdropped
  have hreached := scope.reached_poolAt step
  have hrefused :=
    h.apart entry.decl (hreached.reference_mem_of_mem_pending hentry) target
      (hreached.target_mem_of_mem_free htarget) hdropped step
  rw [← isSome_reason?] at hrefused
  simpa using hrefused

include h in
theorem overridden_restrict :
    (scope.restrict keepReference keepTarget).overridden =
      (scope.overridden.1.restrict keepReference keepTarget, scope.overridden.2) := by
  have hstart :
      Pool.ofTypes (scope.reference.filter keepReference) (scope.target.filter keepTarget) =
        (Pool.ofTypes scope.reference scope.target).restrict keepReference keepTarget := by
    simp only [Pool.ofTypes, Pool.restrict, Pool.sortByName_filter, List.filter_map,
      Function.comp_def]
  unfold overridden
  rw [← Pool.overrideAll_restrict h.reference_unnamed h.target_unnamed, ← hstart]
  rfl

include h in
/-- Bystanders pass through all steps. -/
theorem settled_restrict :
    (scope.restrict keepReference keepTarget).settled =
      scope.settled.restrict keepReference keepTarget := by
  have hnamed : (scope.restrict keepReference keepTarget).namedReason = scope.namedReason :=
    namedReason_eq_of_targetNamespace fun _ => rfl
  have hequivalents := Pool.advance_restrict (h.reason?_eq_none .equivalents)
  have hnames := Pool.advance_restrict (h.reason?_eq_none .names)
  rw [settled, overridden_restrict h, hnamed]
  exact (congrArg (Pool.advance scope.namedReason) hequivalents).trans hnames

include distinct h in
/-- No bystander lists candidates, and none is a candidate. -/
theorem Bystanders.kept_of_mem_candidates
    {entry : Pending} {target : TypeDecl}
    (hentry : entry ∈ scope.settled.pending)
    (htarget : target ∈ entry.candidates) :
    keepReference entry.decl = true ∧ keepTarget target = true := by
  obtain ⟨step, decided⟩ := exists_decided distinct hentry
  have hopen := (decided.mem_iff target).mp htarget
  have hdecl := scope.reached_settled.reference_mem_of_mem_pending hentry
  rw [← Bool.and_eq_true]
  by_contra hdropped
  have hrefused := h.apart entry.decl hdecl target hopen.listed (by simpa using hdropped) step
  simp [hopen.accepted] at hrefused

include distinct h in
/-- The matching of a scope, less its bystanders, is the matching of the scope without them. -/
theorem matching_restrict :
    (scope.restrict keepReference keepTarget).matching =
      { scope.matching with
        unmatchedReference :=
          scope.matching.unmatchedReference.filter fun left => keepReference left.decl
        unmatchedTarget :=
          scope.matching.unmatchedTarget.filter fun left => keepTarget left.decl } := by
  have hleft :
      (scope.settled.restrict keepReference keepTarget).unmatchedReference =
        scope.settled.unmatchedReference.filter fun left => keepReference left.decl := by
    simp only [Pool.unmatchedReference, Pool.restrict, List.filter_map, Function.comp_def]
  have hright :
      (scope.settled.restrict keepReference keepTarget).unmatchedTarget =
        scope.settled.unmatchedTarget.filter fun left => keepTarget left.decl := by
    simp only [Pool.unmatchedTarget, Pool.restrict, List.filter_map, Function.comp_def,
      List.filter_filter]
    refine List.map_congr_left fun target _ => ?_
    have hlisting :
        (scope.settled.pending.filter fun entry =>
            entry.candidates.contains target && keepReference entry.decl) =
          scope.settled.pending.filter fun entry => entry.candidates.contains target := by
      refine List.filter_congr fun entry hentry => ?_
      cases hcontains : entry.candidates.contains target with
      | false =>
          rfl
      | true =>
          simp [(h.kept_of_mem_candidates distinct hentry (by simpa using hcontains)).1]
    rw [hlisting]
  simp only [matching, settled_restrict h, overridden_restrict h, hleft, hright]
  rfl

include distinct h in
theorem Bystanders.reference_leftOver
    {decl : TypeDecl}
    (hdecl : decl ∈ scope.reference) (dropped : keepReference decl = false) :
    ⟨decl, []⟩ ∈ scope.matching.unmatchedReference := by
  rcases scope.reached_settled.mem_reference_iff.mp hdecl with
    ⟨pairing, hpairing, rfl⟩ | ⟨entry, hentry, rfl⟩
  · -- The pairs are those made without the bystanders.
    have hkept : pairing ∈ (scope.restrict keepReference keepTarget).settled.pairs := by
      rw [settled_restrict h]
      exact hpairing
    have hreference := (reached_settled _).mem_of_mem_pairs hkept |>.1
    simp [(List.mem_filter.mp hreference).2] at dropped
  · have hplain : entry.candidates = [] := by
      refine List.eq_nil_iff_forall_not_mem.mpr fun target htarget => ?_
      simp [(h.kept_of_mem_candidates distinct hentry htarget).1] at dropped
    have hleft := List.mem_map_of_mem (f := fun entry : Pending =>
      (⟨entry.decl, entry.candidates.map TypeDecl.fullName⟩ : Unmatched)) hentry
    rw [hplain] at hleft
    exact hleft

include distinct h in
theorem Bystanders.target_leftOver
    {decl : TypeDecl}
    (hdecl : decl ∈ scope.target) (dropped : keepTarget decl = false) :
    ⟨decl, []⟩ ∈ scope.matching.unmatchedTarget := by
  rcases scope.reached_settled.mem_target_iff.mp hdecl with ⟨pairing, hpairing, rfl⟩ | hfree
  · have hkept : pairing ∈ (scope.restrict keepReference keepTarget).settled.pairs := by
      rw [settled_restrict h]
      exact hpairing
    have htarget := (reached_settled _).mem_of_mem_pairs hkept |>.2
    simp [(List.mem_filter.mp htarget).2] at dropped
  · have hunlisted :
        (scope.settled.pending.filter fun entry => entry.candidates.contains decl) = [] := by
      refine List.filter_eq_nil_iff.mpr fun entry hentry hcontains => ?_
      have hcandidate : decl ∈ entry.candidates := by
        simpa using hcontains
      simp [(h.kept_of_mem_candidates distinct hentry hcandidate).2] at dropped
    refine List.mem_map.mpr ⟨decl, hfree, ?_⟩
    rw [hunlisted, List.map_nil]

end Bystanders

end Scope

/-- One list of left-over types is another with one more type, which has no candidates and stands
at its place in the order of full names. -/
def Gains (before after : List Unmatched) (decl : TypeDecl) : Prop :=
  ∃ front back,
    before = front ++ back ∧ after = front ++ ⟨decl, []⟩ :: back ∧
      (∀ left ∈ front, left.decl.Precedes decl) ∧ ∀ left ∈ back, decl.Precedes left.decl

theorem gains_of_mem
    {lefts : List Unmatched} {decl : TypeDecl}
    (ascending : (lefts.map Unmatched.decl).Pairwise TypeDecl.Precedes)
    (h : ⟨decl, []⟩ ∈ lefts) :
    Gains (lefts.filter fun left => left.decl != decl) lefts decl := by
  obtain ⟨front, back, rfl⟩ := List.append_of_mem h
  rw [List.map_append, List.map_cons, List.pairwise_append, List.pairwise_cons] at ascending
  obtain ⟨_, ⟨hafter, _⟩, hbefore⟩ := ascending
  have hfront : ∀ left ∈ front, left.decl.Precedes decl := fun left hleft =>
    hbefore _ (List.mem_map_of_mem hleft) _ (List.mem_cons_self ..)
  have hback : ∀ left ∈ back, decl.Precedes left.decl := fun left hleft =>
    hafter _ (List.mem_map_of_mem hleft)
  refine ⟨front, back, ?_, rfl, hfront, hback⟩
  have hkeptFront : (front.filter fun left => left.decl != decl) = front :=
    List.filter_eq_self.mpr fun left hleft => by simpa using (hfront left hleft).ne
  have hkeptBack : (back.filter fun left => left.decl != decl) = back :=
    List.filter_eq_self.mpr fun left hleft => by simpa using (hback left hleft).ne.symm
  simp [List.filter_append, hkeptFront, hkeptBack]

namespace Scope

/-- A type that may be added to the target types of a scope: it is new, no override names it, and
no reference type accepts it in any step. -/
structure UnrelatedTarget (scope : Scope) (extra : TypeDecl) : Prop where
  new : ∀ decl ∈ scope.target, decl.fullName ≠ extra.fullName
  unnamed : ∀ entry ∈ scope.settings.overrides, entry.target ≠ extra.fullName
  refused : ∀ reference ∈ scope.reference, ∀ step, scope.accepts step reference extra = false

/-- A type that may be added to the reference types of a scope. -/
structure UnrelatedReference (scope : Scope) (extra : TypeDecl) : Prop where
  new : ∀ decl ∈ scope.reference, decl.fullName ≠ extra.fullName
  unnamed : ∀ entry ∈ scope.settings.overrides, entry.reference ≠ extra.fullName
  refused : ∀ target ∈ scope.target, ∀ step, scope.accepts step extra target = false

theorem unmatchedReference_ascending
    {scope : Scope} (distinct : scope.DistinctNames) :
    (scope.matching.unmatchedReference.map Unmatched.decl).Pairwise TypeDecl.Precedes := by
  simpa [matching, Pool.unmatchedReference, Function.comp_def]
    using scope.reached_settled.pending_ascending distinct

theorem unmatchedTarget_ascending
    {scope : Scope} (distinct : scope.DistinctNames) :
    (scope.matching.unmatchedTarget.map Unmatched.decl).Pairwise TypeDecl.Precedes := by
  simpa [matching, Pool.unmatchedTarget, Function.comp_def]
    using scope.reached_settled.free_ascending distinct

section Extra

variable {types extended : List TypeDecl} {extra : TypeDecl}

/-- A new type added to a list is filtered out of it again. -/
theorem filter_ne_perm
    (new : ∀ decl ∈ types, decl.fullName ≠ extra.fullName)
    (added : extended.Perm (extra :: types)) :
    (extended.filter (· != extra)).Perm types := by
  have hkept : types.filter (· != extra) = types := by
    refine List.filter_eq_self.mpr fun decl hdecl => ?_
    have hne : decl ≠ extra := fun same => new decl hdecl (congrArg TypeDecl.fullName same)
    simpa using hne
  have hfiltered := added.filter (· != extra)
  rwa [List.filter_cons_of_neg (by simp), hkept] at hfiltered

theorem nodup_of_added
    (distinct : (types.map TypeDecl.fullName).Nodup)
    (new : ∀ decl ∈ types, decl.fullName ≠ extra.fullName)
    (added : extended.Perm (extra :: types)) :
    (extended.map TypeDecl.fullName).Nodup := by
  rw [(added.map TypeDecl.fullName).nodup_iff, List.map_cons, List.nodup_cons]
  refine ⟨fun hmem => ?_, distinct⟩
  obtain ⟨decl, hdecl, same⟩ := List.mem_map.mp hmem
  exact new decl hdecl same

end Extra

theorem UnrelatedTarget.bystanders
    {scope : Scope} {extra : TypeDecl} (h : scope.UnrelatedTarget extra)
    (extended : List TypeDecl) :
    { scope with target := extended : Scope }.Bystanders (fun _ => true) (· != extra) := by
  refine ⟨by simp, ?_, ?_⟩
  · intro decl hdecl
    obtain rfl : decl = extra := by simpa using hdecl
    exact h.unnamed
  · intro reference hreference target _ hdropped
    obtain rfl : target = extra := by simpa using hdropped
    exact h.refused reference hreference

theorem UnrelatedReference.bystanders
    {scope : Scope} {extra : TypeDecl} (h : scope.UnrelatedReference extra)
    (extended : List TypeDecl) :
    { scope with reference := extended : Scope }.Bystanders (· != extra) (fun _ => true) := by
  refine ⟨?_, by simp, ?_⟩
  · intro decl hdecl
    obtain rfl : decl = extra := by simpa using hdecl
    exact h.unnamed
  · intro reference _ target htarget hdropped
    obtain rfl : reference = extra := by simpa using hdropped
    exact h.refused target htarget

end Scope

/-- With distinct full names, one more type that has nothing to do with the types of the other side
is only left over. -/
theorem matching_ignores_bystanders
    {scope : Scope}
    (distinct : scope.DistinctNames) :
    (∀ extra extended, scope.UnrelatedTarget extra → extended.Perm (extra :: scope.target) →
      ∃ unmatched,
        Gains scope.matching.unmatchedTarget unmatched extra ∧
          { scope with target := extended }.matching =
            { scope.matching with unmatchedTarget := unmatched }) ∧
    ∀ extra extended, scope.UnrelatedReference extra → extended.Perm (extra :: scope.reference) →
      ∃ unmatched,
        Gains scope.matching.unmatchedReference unmatched extra ∧
          { scope with reference := extended }.matching =
            { scope.matching with unmatchedReference := unmatched } := by
  constructor
  · intro extra extended unrelated added
    let wider : Scope := { scope with target := extended }
    have hdistinct : wider.DistinctNames :=
      ⟨distinct.reference, Scope.nodup_of_added distinct.target unrelated.new added⟩
    have hbystanders := unrelated.bystanders extended
    have hsame : (wider.restrict (fun _ => true) (· != extra)).matching = scope.matching :=
      Scope.matching_eq_of_perm distinct (List.Perm.of_eq (List.filter_true _))
        (Scope.filter_ne_perm unrelated.new added) rfl fun _ => rfl
    rw [Scope.matching_restrict hdistinct hbystanders, List.filter_true] at hsame
    have hmem : extra ∈ wider.target := added.mem_iff.mpr (List.mem_cons_self ..)
    have hleft := hbystanders.target_leftOver hdistinct hmem (by simp)
    refine ⟨wider.matching.unmatchedTarget, ?_, ?_⟩
    · rw [← hsame]
      exact gains_of_mem (Scope.unmatchedTarget_ascending hdistinct) hleft
    · rw [← hsame]
  · intro extra extended unrelated added
    let wider : Scope := { scope with reference := extended }
    have hdistinct : wider.DistinctNames :=
      ⟨Scope.nodup_of_added distinct.reference unrelated.new added, distinct.target⟩
    have hbystanders := unrelated.bystanders extended
    have hsame : (wider.restrict (· != extra) (fun _ => true)).matching = scope.matching :=
      Scope.matching_eq_of_perm distinct (Scope.filter_ne_perm unrelated.new added)
        (List.Perm.of_eq (List.filter_true _)) rfl fun _ => rfl
    rw [Scope.matching_restrict hdistinct hbystanders, List.filter_true] at hsame
    have hmem : extra ∈ wider.reference := added.mem_iff.mpr (List.mem_cons_self ..)
    have hleft := hbystanders.reference_leftOver hdistinct hmem (by simp)
    refine ⟨wider.matching.unmatchedReference, ?_, ?_⟩
    · rw [← hsame]
      exact gains_of_mem (Scope.unmatchedReference_ascending hdistinct) hleft
    · rw [← hsame]

section Stranger

/-- A target type that no type of the sample scope accepts. -/
def strangerTarget : TypeDecl :=
  .named .target .classType "A.Stranger"

/-- A reference type that accepts no type of the sample scope. -/
def strangerReference : TypeDecl :=
  .named .reference .classType "a.Stranger"

theorem unrelatedTarget_stranger :
    Scope.sample.UnrelatedTarget strangerTarget where
  new := by decide +kernel
  unnamed := by decide +kernel
  refused := by
    intro reference hreference step
    revert reference
    cases step <;> decide +kernel

theorem unrelatedReference_stranger :
    Scope.sample.UnrelatedReference strangerReference where
  new := by decide +kernel
  unnamed := by decide +kernel
  refused := by
    intro target htarget step
    revert target
    cases step <;> decide +kernel

theorem matching_ignores_bystanders_stranger :
    Scope.sample.DistinctNames ∧
      (∃ unmatched,
        Gains Scope.sample.matching.unmatchedTarget unmatched strangerTarget ∧
          { Scope.sample with target := strangerTarget :: Scope.sample.target }.matching =
            { Scope.sample.matching with unmatchedTarget := unmatched }) ∧
      ∃ unmatched,
        Gains Scope.sample.matching.unmatchedReference unmatched strangerReference ∧
          { Scope.sample with reference := strangerReference :: Scope.sample.reference }.matching =
            { Scope.sample.matching with unmatchedReference := unmatched } := by
  obtain ⟨htarget, hreference⟩ := matching_ignores_bystanders Scope.distinctNames_sample
  exact ⟨Scope.distinctNames_sample,
    htarget _ _ unrelatedTarget_stranger (List.Perm.refl _),
    hreference _ _ unrelatedReference_stranger (List.Perm.refl _)⟩

end Stranger

end Counterpart
