import Counterpart.Proofs.Matching.Marks

/-!
# Runs with marks are runs of the pool

A step over the whole lists visits every position and passes over the marked ones; a step of the
pool takes turns with what is left.  Each visit is a turn, and a whole run gives the same matching,
whatever the names of the types are and however often they occur.

* `Marks.Visited.settle_eq`: a visit is a turn.
* `Marks.Sound.pool_advance`: a step leaves the same pool.
* `Scope.markedMatching_eq_matching`: both runs give the same matching.
-/

namespace Counterpart

namespace Marks

variable {reference target : List TypeDecl}

section Visits

variable {accepts : TypeDecl → TypeDecl → Option Reason} {marks : Marks reference target}

/-- A type that was found ambiguous is resolved and has candidates; with one of them, every equal
type that no pair holds is a candidate. -/
structure Sound (marks : Marks reference target) : Prop where
  resolved : ∀ r candidates, marks.ambiguous r = some candidates → marks.resolved r = true
  nonempty : ∀ r candidates, marks.ambiguous r = some candidates → candidates ≠ []
  closed :
    ∀ r candidates, marks.ambiguous r = some candidates →
      ∀ s ∈ candidates, ∀ t, marks.owner t = none → target.get t = target.get s → t ∈ candidates

theorem Overridden.sound
    {seen : List String} (h : marks.Overridden seen) :
    marks.Sound where
  resolved r _ hr := by simp [h.fresh r] at hr
  nonempty r _ hr := by simp [h.fresh r] at hr
  closed r _ hr := by simp [h.fresh r] at hr

theorem Sound.fresh_of_unresolved
    (sound : marks.Sound) {r : Fin reference.length} (h : marks.resolved r = false) :
    marks.ambiguous r = none := by
  cases hambiguous : marks.ambiguous r with
  | none =>
      rfl
  | some candidates =>
      rw [sound.resolved r candidates hambiguous] at h
      cases h

theorem mem_untaken_iff
    {t : Fin target.length} :
    t ∈ marks.untaken ↔ marks.owner t = none := by
  simp [untaken]

theorem mem_candidates_iff
    {decl : TypeDecl} {t : Fin target.length} {reason : Reason} :
    (t, reason) ∈ marks.candidates accepts decl ↔
      marks.owner t = none ∧ accepts decl (target.get t) = some reason := by
  simp only [candidates, List.mem_filterMap, Option.map_eq_some_iff, Prod.mk.injEq,
    mem_untaken_iff]
  constructor
  · rintro ⟨_, huntaken, _, haccepts, rfl, rfl⟩
    exact ⟨huntaken, haccepts⟩
  · rintro ⟨huntaken, haccepts⟩
    exact ⟨t, huntaken, reason, haccepts, rfl, rfl⟩

/-- The candidates in the pool are those at the untaken positions. -/
theorem candidates_free
    (decl : TypeDecl) :
    Pool.candidates accepts decl marks.free =
      (marks.candidates accepts decl).map fun found => (target.get found.1, found.2) := by
  rw [Pool.candidates, free, List.filterMap_map, candidates, List.map_filterMap]
  refine List.filterMap_congr fun t _ => ?_
  simp [Function.comp_def]

/-- What a visit can do. -/
inductive Visited
    (accepts : TypeDecl → TypeDecl → Option Reason) (marks : Marks reference target)
    (r : Fin reference.length) :
    Marks reference target → Prop
  /-- A resolved type is passed over. -/
  | passed
      (resolved : marks.resolved r = true) :
      Visited accepts marks r marks
  | unmet
      (unresolved : marks.resolved r = false)
      (empty : marks.candidates accepts (reference.get r) = []) :
      Visited accepts marks r marks
  | paired
      {t : Fin target.length} {reason : Reason}
      (unresolved : marks.resolved r = false)
      (single : marks.candidates accepts (reference.get r) = [(t, reason)]) :
      Visited accepts marks r (marks.pair r t reason)
  | torn
      {first second : Fin target.length × Reason} {others : List (Fin target.length × Reason)}
      (unresolved : marks.resolved r = false)
      (several : marks.candidates accepts (reference.get r) = first :: second :: others) :
      Visited accepts marks r (marks.tear r ((first :: second :: others).map Prod.fst))

theorem visited_visit
    (accepts : TypeDecl → TypeDecl → Option Reason) (marks : Marks reference target)
    (r : Fin reference.length) :
    Visited accepts marks r (marks.visit accepts r) := by
  unfold visit
  cases hresolved : marks.resolved r with
  | true =>
      exact .passed hresolved
  | false =>
      rcases hcandidates : marks.candidates accepts (reference.get r) with
        _ | ⟨⟨t, reason⟩, _ | ⟨second, others⟩⟩
      · exact .unmet hresolved hcandidates
      · exact .paired hresolved hcandidates
      · exact .torn hresolved hcandidates

variable {r : Fin reference.length} {next : Marks reference target}

theorem Visited.sound
    (visited : Visited accepts marks r next) (sound : marks.Sound) :
    next.Sound := by
  cases visited with
  | passed | unmet =>
      exact sound
  | @paired t reason unresolved single =>
      refine ⟨fun i found hi => ?_, sound.nonempty, fun i found hi s hs t' ht' => ?_⟩
      · by_cases hir : i = r
        · simp [pair, hir]
        · simpa [pair, hir] using sound.resolved i found hi
      · have huntaken : marks.owner t' = none := by
          have hne : t' ≠ t := by
            rintro rfl
            simp [pair] at ht'
          simpa [pair, hne] using ht'
        exact sound.closed i found hi s hs t' huntaken
  | @torn first second others unresolved several =>
      have hcases (i : Fin reference.length) (found : List (Fin target.length))
          (hi : (marks.tear r ((first :: second :: others).map Prod.fst)).ambiguous i =
            some found) :
          (i = r ∧ found = (first :: second :: others).map Prod.fst) ∨
            (i ≠ r ∧ marks.ambiguous i = some found) := by
        by_cases hir : i = r
        · subst hir
          exact Or.inl ⟨rfl, by simpa [tear, eq_comm] using hi⟩
        · exact Or.inr ⟨hir, by simpa [tear, hir] using hi⟩
      refine ⟨fun i found hi => ?_, fun i found hi => ?_, fun i found hi s hs t ht hsame => ?_⟩
      · rcases hcases i found hi with ⟨rfl, _⟩ | ⟨hir, hbefore⟩
        · simp [tear]
        · simpa [tear, hir] using sound.resolved i found hbefore
      · rcases hcases i found hi with ⟨rfl, rfl⟩ | ⟨_, hbefore⟩
        · exact List.cons_ne_nil _ _
        · exact sound.nonempty i found hbefore
      · rcases hcases i found hi with ⟨rfl, rfl⟩ | ⟨_, hbefore⟩
        · rw [← several] at hs ⊢
          obtain ⟨⟨_, reason⟩, hmem, rfl⟩ := List.mem_map.mp hs
          have haccepts := (mem_candidates_iff.mp hmem).2
          rw [← hsame] at haccepts
          exact List.mem_map_of_mem (mem_candidates_iff.mpr ⟨ht, haccepts⟩)
        · exact sound.closed i found hbefore s hs t ht hsame

/-- A type that is not resolved is pending without candidates. -/
theorem Sound.pendingOf_unresolved
    (sound : marks.Sound) (unresolved : marks.resolved r = false) :
    marks.pendingOf [r] = [⟨reference.get r, []⟩] := by
  have hfresh := sound.fresh_of_unresolved unresolved
  simp [pendingOf, isPending, unresolved, entryAt, candidatesOf, hfresh]

/-- The only accepted position is the one that a pairing takes. -/
theorem free_pair
    {t : Fin target.length} {reason : Reason}
    (single : marks.candidates accepts (reference.get r) = [(t, reason)]) :
    (marks.pair r t reason).free =
      marks.free.filter fun other => (accepts (reference.get r) other).isNone := by
  rw [free, untaken_pair, free, List.filter_map]
  refine congrArg (List.map _) (List.filter_congr fun i hi => ?_)
  rw [Bool.eq_iff_iff, Function.comp_apply, Option.isNone_iff_eq_none, Bool.not_eq_true',
    decide_eq_false_iff_not, not_iff_comm]
  constructor
  · intro haccepts
    obtain ⟨other, hother⟩ := Option.ne_none_iff_exists'.mp haccepts
    have hmem := mem_candidates_iff.mpr ⟨mem_untaken_iff.mp hi, hother⟩
    rw [single] at hmem
    exact congrArg Prod.fst (List.mem_singleton.mp hmem)
  · rintro rfl hnone
    have hmem : (i, reason) ∈ marks.candidates accepts (reference.get r) := by
      rw [single]
      exact List.mem_cons_self ..
    rw [(mem_candidates_iff.mp hmem).2] at hnone
    cases hnone

/-- A visit is a turn in the pool. -/
theorem Visited.settle_eq
    (visited : Visited accepts marks r next) (sound : marks.Sound) :
    ∃ pairs,
      Pool.settle accepts (marks.pendingOf [r]) marks.free =
          ⟨next.pendingOf [r], next.free, pairs⟩ ∧
        next.pairs = marks.pairs ++ pairs := by
  cases visited with
  | passed resolved =>
      refine ⟨[], ?_, (List.append_nil _).symm⟩
      cases hambiguous : marks.ambiguous r with
      | none =>
          simp [pendingOf, isPending, resolved, hambiguous]
      | some found =>
          have hfound := sound.nonempty r found hambiguous
          simp [pendingOf, isPending, resolved, hambiguous, entryAt, candidatesOf, Pool.settle,
            Pending.isAmbiguous, hfound, Pool.hold]
  | unmet unresolved empty =>
      refine ⟨[], ?_, (List.append_nil _).symm⟩
      simp only [sound.pendingOf_unresolved unresolved, Pool.settle, candidates_free, empty]
      rfl
  | @paired t reason unresolved single =>
      have hpending : (marks.pair r t reason).pendingOf [r] = [] := by
        simp [pendingOf, isPending, pair, sound.fresh_of_unresolved unresolved]
      refine ⟨[⟨reference.get r, target.get t, reason⟩], ?_, rfl⟩
      simp only [sound.pendingOf_unresolved unresolved, Pool.settle, candidates_free, single,
        hpending, free_pair single]
      rfl
  | @torn first second others unresolved several =>
      have hpending (found : List (Fin target.length)) :
          (marks.tear r found).pendingOf [r] = [⟨reference.get r, found.map target.get⟩] := by
        simp [pendingOf, isPending, tear, entryAt, candidatesOf]
      refine ⟨[], ?_, (List.append_nil _).symm⟩
      simp only [sound.pendingOf_unresolved unresolved, Pool.settle, candidates_free, several,
        hpending]
      simp [Pending.isAmbiguous, Pool.hold, free, untaken, tear]

theorem pendingOf_congr
    {positions : List (Fin reference.length)}
    (h : ∀ i ∈ positions,
      next.resolved i = marks.resolved i ∧ next.ambiguous i = marks.ambiguous i) :
    next.pendingOf positions = marks.pendingOf positions := by
  have hfilter :
      positions.filter next.isPending = positions.filter marks.isPending :=
    List.filter_congr fun i hi => by rw [isPending, isPending, (h i hi).1, (h i hi).2]
  rw [pendingOf, pendingOf, hfilter]
  refine List.map_congr_left fun i hi => ?_
  rw [entryAt, entryAt, candidatesOf, candidatesOf, (h i (List.mem_of_mem_filter hi)).2]

/-- A visit only marks its own reference type. -/
theorem Visited.pendingOf_of_not_mem
    (visited : Visited accepts marks r next) {positions : List (Fin reference.length)}
    (h : r ∉ positions) :
    next.pendingOf positions = marks.pendingOf positions := by
  refine pendingOf_congr fun i hi => ?_
  have hne : i ≠ r := ne_of_mem_of_not_mem hi h
  cases visited with
  | passed | unmet =>
      exact ⟨rfl, rfl⟩
  | paired =>
      exact ⟨by simp [pair, hne], rfl⟩
  | torn =>
      exact ⟨by simp [tear, hne], by simp [tear, hne]⟩

theorem pendingOf_foldl_visit
    {visited positions : List (Fin reference.length)} (h : ∀ i ∈ visited, i ∉ positions) :
    (visited.foldl (visit accepts) marks).pendingOf positions = marks.pendingOf positions := by
  induction visited generalizing marks with
  | nil =>
      rfl
  | cons first rest ih =>
      obtain ⟨hfirst, hrest⟩ := List.forall_mem_cons.mp h
      rw [List.foldl_cons, ih hrest]
      exact (visited_visit accepts marks first).pendingOf_of_not_mem hfirst

/-- A run of visits is a run of turns in the pool. -/
theorem Sound.foldl_visit
    (sound : marks.Sound) (accepts : TypeDecl → TypeDecl → Option Reason)
    {positions : List (Fin reference.length)} (nodup : positions.Nodup) :
    (positions.foldl (visit accepts) marks).Sound ∧
      ∃ pairs,
        Pool.settle accepts (marks.pendingOf positions) marks.free =
            ⟨(positions.foldl (visit accepts) marks).pendingOf positions,
              (positions.foldl (visit accepts) marks).free, pairs⟩ ∧
          (positions.foldl (visit accepts) marks).pairs = marks.pairs ++ pairs := by
  induction positions generalizing marks with
  | nil =>
      exact ⟨sound, [], rfl, (List.append_nil _).symm⟩
  | cons first rest ih =>
      obtain ⟨hfirst, hrest⟩ := List.nodup_cons.mp nodup
      have hvisit := visited_visit accepts marks first
      obtain ⟨pairs, hsettle, hpairs⟩ := hvisit.settle_eq sound
      obtain ⟨hsound, others, hothers, hall⟩ := ih (hvisit.sound sound) hrest
      have hsplit (m : Marks reference target) :
          m.pendingOf (first :: rest) = m.pendingOf [first] ++ m.pendingOf rest := by
        rw [pendingOf, pendingOf, pendingOf, ← List.map_append, ← List.filter_append]
        rfl
      have hkept :
          (rest.foldl (visit accepts) (marks.visit accepts first)).pendingOf [first] =
            (marks.visit accepts first).pendingOf [first] :=
        pendingOf_foldl_visit fun i hi => by simpa using ne_of_mem_of_not_mem hi hfirst
      refine ⟨hsound, pairs ++ others, ?_, ?_⟩
      · rw [List.foldl_cons, hsplit, hsplit, Pool.settle_append, hsettle, hkept]
        dsimp only
        rw [← hvisit.pendingOf_of_not_mem hfirst, hothers]
        rfl
      · rw [List.foldl_cons, hall, hpairs, List.append_assoc]

/-- A step leaves the same pool over the marks. -/
theorem Sound.pool_advance
    (sound : marks.Sound) (accepts : TypeDecl → TypeDecl → Option Reason) :
    (marks.advance accepts).Sound ∧
      (marks.advance accepts).pool = marks.pool.advance accepts := by
  obtain ⟨hsound, pairs, hsettle, hpairs⟩ :=
    sound.foldl_visit accepts (List.nodup_finRange reference.length)
  refine ⟨hsound, ?_⟩
  rw [Pool.advance, pool, pool, hsettle, advance, hpairs]

end Visits

section LeftOver

variable {marks : Marks reference target}

theorem unmatchedReference_pool :
    marks.pool.unmatchedReference = marks.unmatchedReference := by
  simp [Pool.unmatchedReference, pool, pendingOf, entryAt, unmatchedReference, leftOver,
    Function.comp_def]

/-- A free type is among the candidates of a type if and only if its position is. -/
theorem Sound.contains_entryAt
    (sound : marks.Sound) {t : Fin target.length} (untaken : marks.owner t = none)
    (r : Fin reference.length) :
    (marks.entryAt r).candidates.contains (target.get t) = (marks.candidatesOf r).contains t := by
  rw [Bool.eq_iff_iff, List.contains_iff_mem, List.contains_iff_mem, entryAt]
  constructor
  · intro h
    obtain ⟨s, hs, hsame⟩ := List.mem_map.mp h
    cases hambiguous : marks.ambiguous r with
    | none =>
        simp [candidatesOf, hambiguous] at hs
    | some found =>
        rw [candidatesOf, hambiguous, Option.getD_some] at hs ⊢
        exact sound.closed r found hambiguous s hs t untaken hsame.symm
  · exact List.mem_map_of_mem

theorem Sound.unmatchedTarget_pool
    (sound : marks.Sound) :
    marks.pool.unmatchedTarget = marks.unmatchedTarget := by
  rw [Pool.unmatchedTarget, unmatchedTarget, pool, free, List.map_map]
  refine List.map_congr_left fun t ht => ?_
  have hfilter :
      marks.leftOver.filter (fun r => (marks.entryAt r).candidates.contains (target.get t)) =
        (List.finRange reference.length).filter fun r => (marks.candidatesOf r).contains t := by
    rw [leftOver, List.filter_filter]
    refine List.filter_congr fun r _ => ?_
    rw [sound.contains_entryAt (mem_untaken_iff.mp ht) r]
    cases hambiguous : marks.ambiguous r <;> simp [candidatesOf, isPending, hambiguous]
  rw [Function.comp_apply, pendingOf, ← leftOver, List.filter_map, List.map_map]
  dsimp only [Function.comp_def]
  rw [hfilter]
  rfl

end LeftOver

end Marks

namespace Scope

/-- The overrides of a scope leave the same pool over the marks, with the same warnings. -/
theorem overridden_of_marked
    (scope : Scope) :
    scope.marked.1.Sound ∧ (scope.marked.1.pool, scope.marked.2) = scope.overridden := by
  have hstart :
      Marks.Overridden []
        ({} : Marks (Pool.ofTypes.sortByName scope.reference)
          (Pool.ofTypes.sortByName scope.target)) :=
    Marks.overridden_unmarked
  have hsame : ([] : List String) = [].map Override.reference := rfl
  obtain ⟨hpool, _, hinv⟩ := hstart.pool_overrideAll hsame scope.settings.overrides
  rw [Marks.pool_unmarked] at hpool
  exact ⟨hinv.sound, hpool⟩

/-- A run over the whole lists with marks gives the matching of the pool, whatever the names of the
types are and however often they occur. -/
theorem markedMatching_eq_matching
    (scope : Scope) :
    scope.markedMatching = scope.matching := by
  obtain ⟨hsound, hoverridden⟩ := scope.overridden_of_marked
  obtain ⟨hdeclared, hfirst⟩ := hsound.pool_advance declaredReason
  obtain ⟨hnamed, hsecond⟩ := hdeclared.pool_advance scope.namedReason
  have hsettled :
      ((scope.marked.1.advance declaredReason).advance scope.namedReason).pool = scope.settled := by
    rw [hsecond, hfirst, settled, ← hoverridden]
  rw [markedMatching, matching, ← hsettled, ← hoverridden, Marks.unmatchedReference_pool,
    hnamed.unmatchedTarget_pool]
  rfl

end Scope

end Counterpart
