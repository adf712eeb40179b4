import Counterpart.Proofs.Correspondence.Alike
import Counterpart.Proofs.Matching.Turn
import Counterpart.Proofs.Sorting

/-!
# What a matching reads of target types

Of a target type a matching reads the kind, the names and the declared equivalent: its outline.
Modifiers, members and acknowledged differences do not count.  So target types that have the same
outlines, one by one, are matched alike: at every stage the pools hold the same reference types and
related target types in the same places.

* `Pool.overrideAll_related`, `Pool.advance_related`: overrides and steps treat related pools alike.
* `Scope.settled_related`: so does the whole matching.
-/

namespace Counterpart

/-- Two target types that a matching cannot tell apart. -/
structure TypeDecl.SameOutline (decl other : TypeDecl) : Prop where
  kind : other.kind = decl.kind
  package : other.package = decl.package
  simpleName : other.simpleName = decl.simpleName
  fullName : other.fullName = decl.fullName
  declaredEquivalent : other.declaredEquivalent = decl.declaredEquivalent

namespace Scope

variable {target other : TypeDecl} (h : target.SameOutline other)
include h

theorem declares_eq_of_sameOutline
    (reference : TypeDecl) :
    declares reference other = declares reference target := by
  rw [Bool.eq_iff_iff, declares_iff, declares_iff, h.declaredEquivalent]

theorem rule?_eq_of_sameOutline
    (scope : Scope) (reference : TypeDecl) :
    scope.rule? reference other = scope.rule? reference target := by
  have hpath : other.targetPath = target.targetPath := by
    simp only [TypeDecl.targetPath, TypeDecl.localName, h.package, h.fullName, h.simpleName]
  simp only [rule?, follows, h.kind, h.package, hpath]

theorem declaredReason_eq_of_sameOutline
    (reference : TypeDecl) :
    declaredReason reference other = declaredReason reference target := by
  rw [declaredReason, declaredReason, declares_eq_of_sameOutline h]

theorem namedReason_eq_of_sameOutline
    (scope : Scope) (reference : TypeDecl) :
    scope.namedReason reference other = scope.namedReason reference target := by
  rw [namedReason, namedReason, h.declaredEquivalent, rule?_eq_of_sameOutline h]

/-- Types that a matching cannot tell apart correspond to the same types. -/
theorem typesAgree_eq_of_sameOutline
    (scope : Scope) (reference : TypeDecl) :
    scope.typesAgree reference other = scope.typesAgree reference target := by
  simp only [typesAgree, h.fullName, h.declaredEquivalent, declares_eq_of_sameOutline h,
    rule?_eq_of_sameOutline h]

end Scope

section Extract

variable {α β : Type} {R : α → β → Prop}

/-- Extracting from related lists finds related elements, or none in either. -/
theorem extractLast?_related
    (test : α → Bool) (test' : β → Bool) (alike : ∀ a b, R a b → test' b = test a)
    {l : List α} {l' : List β} (h : List.Forall₂ R l l') :
    Option.Rel (fun found found' => R found.1 found'.1 ∧ List.Forall₂ R found.2 found'.2)
      (extractLast? test l) (extractLast? test' l') := by
  induction h with
  | nil =>
      exact .none
  | @cons a b rest rest' hab hrest ih =>
      unfold extractLast?
      generalize extractLast? test rest = found at ih ⊢
      generalize extractLast? test' rest' = found' at ih ⊢
      cases ih with
      | @some found found' hfound =>
          exact .some ⟨hfound.1, .cons hab hfound.2⟩
      | none =>
          simp only [alike a b hab]
          cases test a with
          | true =>
              exact .some ⟨hab, hrest⟩
          | false =>
              exact .none

theorem find?_related
    (test : α → Bool) (test' : β → Bool) (alike : ∀ a b, R a b → test' b = test a)
    {l : List α} {l' : List β} (h : List.Forall₂ R l l') :
    Option.Rel R (l.find? test) (l'.find? test') := by
  induction h with
  | nil =>
      exact .none
  | @cons a b rest rest' hab hrest ih =>
      rw [List.find?_cons, List.find?_cons, alike a b hab]
      cases test a with
      | true =>
          exact .some hab
      | false =>
          exact ih

end Extract

/-- Pairs of the same reference type, for the same reason, with related target types. -/
structure Pairing.Related
    (R : TypeDecl → TypeDecl → Prop) (pairing other : Pairing) : Prop where
  reference : other.reference = pairing.reference
  target : R pairing.target other.target
  reason : other.reason = pairing.reason

/-- The same pending type with related candidates. -/
structure Pending.Related
    (R : TypeDecl → TypeDecl → Prop) (entry other : Pending) : Prop where
  decl : other.decl = entry.decl
  candidates : List.Forall₂ R entry.candidates other.candidates

namespace Pool

/-- Pools with the same reference types and related target types in the same places. -/
structure Related (R : TypeDecl → TypeDecl → Prop) (pool other : Pool) : Prop where
  pending : List.Forall₂ (Pending.Related R) pool.pending other.pending
  free : List.Forall₂ R pool.free other.free
  pairs : List.Forall₂ (Pairing.Related R) pool.pairs other.pairs

variable {R : TypeDecl → TypeDecl → Prop}
  (outlined : ∀ decl other, R decl other → decl.SameOutline other)

section Overrides

variable {pool other : Pool}

include outlined in
/-- An override is ruled on alike. -/
theorem overrideWith_related
    (h : Related R pool other) (earlier : List Override) (entry : Override) :
    (∃ warning,
        pool.overrideWith earlier entry = .error warning ∧
          other.overrideWith earlier entry = .error warning) ∨
      ∃ next next',
        pool.overrideWith earlier entry = .ok next ∧
          other.overrideWith earlier entry = .ok next' ∧ Related R next next' := by
  have hreference :=
    extractLast?_related (fun other => other.decl.fullName == entry.reference)
      (fun other => other.decl.fullName == entry.reference)
      (fun _ _ hrelated => by simp only [hrelated.decl]) h.pending
  have howner :=
    find?_related (fun other => other.target.fullName == entry.target)
      (fun other => other.target.fullName == entry.target)
      (fun _ _ hrelated => by simp only [(outlined _ _ hrelated.target).fullName]) h.pairs
  have htarget :=
    extractLast?_related (fun other => other.fullName == entry.target)
      (fun other => other.fullName == entry.target)
      (fun _ _ hrelated => by simp only [(outlined _ _ hrelated).fullName]) h.free
  unfold overrideWith
  split
  · exact Or.inl ⟨_, rfl, rfl⟩
  generalize extractLast? (fun other : Pending => other.decl.fullName == entry.reference)
    pool.pending = found at hreference ⊢
  generalize extractLast? (fun other : Pending => other.decl.fullName == entry.reference)
    other.pending = found' at hreference ⊢
  cases hreference with
  | none =>
      exact Or.inl ⟨_, rfl, rfl⟩
  | @some reference reference' hreference =>
      generalize pool.pairs.find? (fun other => other.target.fullName == entry.target) = owner
        at howner ⊢
      generalize other.pairs.find? (fun other => other.target.fullName == entry.target) = owner'
        at howner ⊢
      cases howner with
      | @some owner owner' howner =>
          refine Or.inl ⟨_, rfl, ?_⟩
          simp only [howner.reference]
      | none =>
          generalize extractLast? (fun other => other.fullName == entry.target) pool.free = target
            at htarget ⊢
          generalize extractLast? (fun other => other.fullName == entry.target) other.free = target'
            at htarget ⊢
          cases htarget with
          | none =>
              exact Or.inl ⟨_, rfl, rfl⟩
          | @some target target' htarget =>
              refine Or.inr ⟨_, _, rfl, rfl, hreference.2, htarget.2, ?_⟩
              exact List.rel_append h.pairs (.cons ⟨hreference.1.decl, htarget.1, rfl⟩ .nil)

include outlined in
theorem overrideAll_related
    (h : Related R pool other) (earlier overrides : List Override) :
    Related R (pool.overrideAll earlier overrides).1 (other.overrideAll earlier overrides).1 ∧
      (other.overrideAll earlier overrides).2 = (pool.overrideAll earlier overrides).2 := by
  induction overrides generalizing earlier pool other with
  | nil =>
      exact ⟨h, rfl⟩
  | cons entry rest ih =>
      unfold overrideAll
      rcases overrideWith_related outlined h earlier entry with
        ⟨warning, hpool, hother⟩ | ⟨next, next', hpool, hother, hnext⟩
      · rw [hpool, hother]
        have hrest := ih h (entry :: earlier)
        exact ⟨hrest.1, congrArg (warning :: ·) hrest.2⟩
      · rw [hpool, hother]
        exact ih hnext (entry :: earlier)

end Overrides

section Steps

variable {accepts : TypeDecl → TypeDecl → Option Reason}
  (alike : ∀ reference decl other, R decl other → accepts reference other = accepts reference decl)
  {free free' : List TypeDecl}

include alike in
/-- A reference type accepts related targets for the same reasons. -/
theorem candidates_related
    (h : List.Forall₂ R free free') (reference : TypeDecl) :
    List.Forall₂ (fun candidate candidate' =>
        R candidate.1 candidate'.1 ∧ candidate'.2 = candidate.2)
      (candidates accepts reference free) (candidates accepts reference free') := by
  unfold candidates
  induction h with
  | nil =>
      exact .nil
  | @cons decl other rest rest' hrelated hrest ih =>
      rw [List.filterMap_cons, List.filterMap_cons, alike reference decl other hrelated]
      cases accepts reference decl with
      | none =>
          exact ih
      | some reason =>
          exact .cons ⟨hrelated, rfl⟩ ih

theorem Related.followedBy
    {first first' second second' : Pool}
    (hfirst : Related R first first') (hsecond : Related R second second') :
    Related R (first.followedBy second) (first'.followedBy second') where
  pending := List.rel_append hfirst.pending hsecond.pending
  free := hsecond.free
  pairs := List.rel_append hfirst.pairs hsecond.pairs

include alike in
/-- A turn has the same outcome. -/
theorem settle_singleton_related
    {entry entry' : Pending} (hentry : entry.Related R entry') (h : List.Forall₂ R free free') :
    Related R (settle accepts [entry] free) (settle accepts [entry'] free') := by
  obtain ⟨decl, listed⟩ := entry
  obtain ⟨decl', listed'⟩ := entry'
  obtain ⟨hdecl, hlisted⟩ := hentry
  obtain rfl : decl = decl' := hdecl.symm
  cases hlisted with
  | cons hfirst hrest =>
      simp only [settle, Pending.isAmbiguous, hold, List.isEmpty_cons, Bool.not_false, if_true]
      exact ⟨.cons ⟨rfl, .cons hfirst hrest⟩ .nil, h, .nil⟩
  | nil =>
      have hcandidates := candidates_related alike h decl
      generalize hfound : candidates accepts decl free = found at hcandidates
      generalize hfound' : candidates accepts decl free' = found' at hcandidates
      have hfree :
          List.Forall₂ R (free.filter fun other => (accepts decl other).isNone)
            (free'.filter fun other => (accepts decl other).isNone) := by
        refine List.rel_filter ?_ h
        intro target target' htarget
        simp only [alike decl target target' htarget]
      cases hcandidates with
      | nil =>
          simp only [settle, Pending.isAmbiguous, hold, hfound, hfound', List.isEmpty_nil,
            Bool.not_true, Bool.false_eq_true, if_false]
          exact ⟨.cons ⟨rfl, .nil⟩ .nil, h, .nil⟩
      | @cons candidate candidate' _ _ hfirst hrest =>
          cases hrest with
          | nil =>
              simp only [settle, Pending.isAmbiguous, pair, hfound, hfound', List.isEmpty_nil,
                Bool.not_true, Bool.false_eq_true, if_false]
              exact ⟨.nil, hfree, .cons ⟨rfl, hfirst.1, hfirst.2⟩ .nil⟩
          | cons hsecond hothers =>
              simp only [settle, Pending.isAmbiguous, hold, hfound, hfound', List.isEmpty_nil,
                Bool.not_true, Bool.false_eq_true, if_false]
              refine ⟨.cons ⟨rfl, ?_⟩ .nil, h, .nil⟩
              rw [List.forall₂_map_left_iff, List.forall₂_map_right_iff]
              exact .cons hfirst.1 (.cons hsecond.1 (hothers.imp fun _ _ both => both.1))

include alike in
theorem settle_related
    {pending pending' : List Pending}
    (hpending : List.Forall₂ (Pending.Related R) pending pending')
    (h : List.Forall₂ R free free') :
    Related R (settle accepts pending free) (settle accepts pending' free') := by
  induction hpending generalizing free free' with
  | nil =>
      exact ⟨.nil, h, .nil⟩
  | @cons entry entry' rest rest' hentry _ ih =>
      have hturn := settle_singleton_related alike hentry h
      rw [settle_cons, settle_cons entry']
      exact hturn.followedBy (ih hturn.free)

include alike in
/-- A step treats related pools alike. -/
theorem advance_related
    {pool other : Pool} (h : Related R pool other) :
    Related R (pool.advance accepts) (other.advance accepts) := by
  have hsettled := settle_related alike h.pending h.free
  exact ⟨hsettled.pending, hsettled.free, List.rel_append h.pairs hsettled.pairs⟩

end Steps

include outlined in
theorem ofTypes_related
    (reference : List TypeDecl) {target target' : List TypeDecl}
    (h : List.Forall₂ R target target') :
    Related R (ofTypes reference target) (ofTypes reference target') where
  pending := List.forall₂_same.mpr fun entry hentry => by
    obtain ⟨decl, _, rfl⟩ := List.mem_map.mp hentry
    exact ⟨rfl, .nil⟩
  free := by
    refine forall₂_mergeSort (fun decl decl' other other' hdecl hother => ?_) h
    rw [(outlined _ _ hdecl).fullName, (outlined _ _ hother).fullName]
  pairs := .nil

end Pool

namespace Scope

/-- Target types with the same outlines are matched alike, and the same overrides are refused. -/
theorem settled_related
    {R : TypeDecl → TypeDecl → Prop}
    (outlined : ∀ decl other, R decl other → decl.SameOutline other)
    {scope other : Scope} (settings : other.settings = scope.settings)
    (reference : other.reference = scope.reference)
    (target : List.Forall₂ R scope.target other.target) :
    Pool.Related R scope.settled other.settled ∧
      other.matching.warnings = scope.matching.warnings := by
  obtain ⟨hpool, hwarnings⟩ :=
    Pool.overrideAll_related outlined (Pool.ofTypes_related outlined scope.reference target) []
      scope.settings.overrides
  have hnamed : other.namedReason = scope.namedReason :=
    namedReason_eq_of_targetNamespace fun package => by rw [targetNamespace, settings]; rfl
  have hequivalents :=
    Pool.advance_related
      (fun reference decl other h =>
        declaredReason_eq_of_sameOutline (outlined decl other h) reference)
      hpool
  have hnames :=
    Pool.advance_related
      (fun reference decl other h =>
        namedReason_eq_of_sameOutline (outlined decl other h) scope reference)
      hequivalents
  have hoverridden :
      other.overridden =
        (Pool.ofTypes scope.reference other.target).overrideAll [] scope.settings.overrides := by
    rw [overridden, settings, reference]
  rw [matching, matching, settled, settled, hnamed, hoverridden]
  exact ⟨hnames, hwarnings⟩

end Scope
end Counterpart
