import Counterpart.Proofs.Matching.Outline
import Counterpart.Proofs.Matching.Schedule

/-!
# Acknowledged differences

What a target type acknowledges is left out of the difference of its pair, part by part, and counts
for nothing else: not for the other parts, not for whether two types can be compared at all, not for
which types are matched, and not for which written types are the same.

* `difference_acknowledging`: the difference of a type that acknowledges some of it.
* `Pool.Closed`: free targets that a matching cannot tell apart are candidates of the same types.
* `Scope.matching_related`: target types with the same outlines are paired and left over alike.
* `acknowledged_differences_are_left_out`: what acknowledged differences do, and all that they do.
-/

namespace Counterpart

/-- The type with other acknowledged differences. -/
@[simps]
def TypeDecl.acknowledging (decl : TypeDecl) (known : Acknowledged) : TypeDecl :=
  { decl with acknowledged := known }

/-- Two types that are alike but for what they acknowledge. -/
def TypeDecl.AlikeButAcknowledged (decl other : TypeDecl) : Prop :=
  ∃ known, other = decl.acknowledging known

theorem TypeDecl.AlikeButAcknowledged.sameOutline
    {decl other : TypeDecl} (h : decl.AlikeButAcknowledged other) :
    decl.SameOutline other := by
  obtain ⟨known, rfl⟩ := h
  exact ⟨rfl, rfl, rfl, rfl, rfl⟩

/-- A difference without the parts that are acknowledged. -/
def TypeDifference.less (difference : TypeDifference) (known : Acknowledged) : TypeDifference :=
  { modifiers := if known.modifiers.isSome then none else difference.modifiers
    baseType := if known.baseType.isSome then none else difference.baseType
    contracts := if known.contracts.isSome then none else difference.contracts
    members := difference.members }

namespace Scope

section Difference

variable {reference target : TypeDecl} (plain : target.acknowledged = {})
include plain

theorem modifierDifference?_acknowledging
    (known : Acknowledged) :
    modifierDifference? reference (target.acknowledging known) =
      (modifierDifference? reference target).map fun modifiers =>
        if known.modifiers.isSome then none else modifiers := by
  simp only [modifierDifference?, TypeDecl.acknowledging_modifiers,
    TypeDecl.acknowledging_acknowledged, TypeDecl.acknowledging_fullName, plain]
  rcases Modifier.agreeOnTypes reference.modifiers target.modifiers with side | same
  · cases side <;> rfl
  · cases same <;> cases known.modifiers <;> rfl

theorem baseTypeDifference?_acknowledging
    (scope : Scope) (known : Acknowledged) :
    scope.baseTypeDifference? reference (target.acknowledging known) =
      if known.baseType.isSome then none else scope.baseTypeDifference? reference target := by
  simp only [baseTypeDifference?, TypeDecl.acknowledging_baseType,
    TypeDecl.acknowledging_acknowledged, plain]
  cases known.baseType <;> rfl

/-- The difference of a type that acknowledges some of it is the rest. -/
theorem difference_acknowledging
    (scope : Scope) (known : Acknowledged) :
    scope.difference reference (target.acknowledging known) =
      (scope.difference reference target).map fun difference => difference.less known := by
  have hmembers :
      scope.memberDifference reference (target.acknowledging known) =
        scope.memberDifference reference target :=
    rfl
  simp only [difference, modifierDifference?_acknowledging plain,
    baseTypeDifference?_acknowledging plain, TypeDecl.acknowledging_contracts,
    TypeDecl.acknowledging_acknowledged, hmembers, plain]
  cases modifierDifference? reference target <;> rfl

end Difference

end Scope

/-- Left-over types that are related, with the same candidates. -/
structure Unmatched.Related (R : TypeDecl → TypeDecl → Prop) (left other : Unmatched) : Prop where
  decl : R left.decl other.decl
  candidates : other.candidates = left.candidates

/-- Matchings of the same reference types with related target types: the same pairs for the same
reasons, the same types left over with the same candidates, and the same warnings. -/
structure Matching.Related
    (R : TypeDecl → TypeDecl → Prop) (matching other : Matching) : Prop where
  matched : List.Forall₂ (Pairing.Related R) matching.matched other.matched
  unmatchedReference : other.unmatchedReference = matching.unmatchedReference
  unmatchedTarget :
    List.Forall₂ (Unmatched.Related R) matching.unmatchedTarget other.unmatchedTarget
  warnings : other.warnings = matching.warnings

theorem exists_mem_of_forall₂
    {α β : Type} {R : α → β → Prop} {l : List α} {l' : List β} (h : List.Forall₂ R l l')
    {a : α} (ha : a ∈ l) :
    ∃ b ∈ l', R a b := by
  induction h with
  | nil =>
      cases ha
  | @cons first first' _ _ hfirst _ ih =>
      rcases List.mem_cons.mp ha with rfl | hrest
      · exact ⟨first', List.mem_cons_self, hfirst⟩
      · obtain ⟨b, hb, hrelated⟩ := ih hrest
        exact ⟨b, List.mem_cons_of_mem _ hb, hrelated⟩

theorem TypeDecl.SameOutline.symm
    {decl other : TypeDecl} (h : decl.SameOutline other) :
    other.SameOutline decl :=
  ⟨h.kind.symm, h.package.symm, h.simpleName.symm, h.fullName.symm, h.declaredEquivalent.symm⟩

theorem TypeDecl.SameOutline.trans
    {first second third : TypeDecl}
    (h : first.SameOutline second) (h' : second.SameOutline third) :
    first.SameOutline third :=
  ⟨h'.kind.trans h.kind, h'.package.trans h.package, h'.simpleName.trans h.simpleName,
    h'.fullName.trans h.fullName, h'.declaredEquivalent.trans h.declaredEquivalent⟩

namespace Pool

/-- A free target that a matching cannot tell apart from a candidate is a candidate as well. -/
def Closed (pool : Pool) : Prop :=
  ∀ entry ∈ pool.pending, ∀ candidate ∈ entry.candidates, ∀ target ∈ pool.free,
    candidate.SameOutline target → target ∈ entry.candidates

/-- A step accepts targets by their outlines, and looks at all that are free. -/
theorem Closed.advance
    {pool : Pool} {accepts : TypeDecl → TypeDecl → Option Reason}
    (alike :
      ∀ reference decl other, decl.SameOutline other →
        accepts reference other = accepts reference decl)
    (h : pool.Closed) :
    (pool.advance accepts).Closed := by
  intro entry hentry candidate hcandidate target htarget same
  obtain ⟨before, origin, after, hpending, hturn⟩ := exists_turn_of_mem_pending hentry
  have hfree : target ∈ (settle accepts before pool.free).free := by
    have hlater : target ∈ (settle accepts pool.pending pool.free).free := htarget
    rw [hpending, settle_append] at hlater
    exact (free_settle_sublist _ _).subset hlater
  obtain ⟨_, ⟨_, rfl⟩ | ⟨_, hlisted, _⟩⟩ :=
    (turn_settle accepts origin _).candidates_of_mem_pending hturn
  · have horigin : entry ∈ pool.pending := by simp [hpending]
    exact h entry horigin candidate hcandidate target ((free_settle_sublist _ _).subset hfree) same
  · rw [hlisted, map_fst_candidates, List.mem_filter] at hcandidate ⊢
    exact ⟨hfree, by rw [alike _ _ _ same]; exact hcandidate.2⟩

section Related

variable {R : TypeDecl → TypeDecl → Prop}
  (outlined : ∀ decl other, R decl other → decl.SameOutline other)
  {pool other : Pool}

include outlined in
/-- The reference types that are left over are the same, and so are the names they list. -/
theorem unmatchedReference_related
    (h : Related R pool other) :
    other.unmatchedReference = pool.unmatchedReference := by
  rw [unmatchedReference, unmatchedReference, eq_comm, ← List.forall₂_eq_eq_eq,
    List.forall₂_map_left_iff, List.forall₂_map_right_iff]
  refine h.pending.imp fun entry entry' hentry => ?_
  have hnames :
      entry.candidates.map TypeDecl.fullName = entry'.candidates.map TypeDecl.fullName := by
    rw [← List.forall₂_eq_eq_eq, List.forall₂_map_left_iff, List.forall₂_map_right_iff]
    exact hentry.candidates.imp fun _ _ hrelated => (outlined _ _ hrelated).fullName.symm
  rw [hnames, hentry.decl]

variable (closed : pool.Closed) (closed' : other.Closed)
include outlined closed closed'

/-- Related free targets are candidates of the same types. -/
theorem mem_candidates_iff_related
    {entry entry' : Pending} (hentry : entry.Related R entry')
    (hmem : entry ∈ pool.pending) (hmem' : entry' ∈ other.pending)
    {target target' : TypeDecl} (htarget : R target target')
    (hfree : target ∈ pool.free) (hfree' : target' ∈ other.free) :
    target' ∈ entry'.candidates ↔ target ∈ entry.candidates := by
  have same := outlined _ _ htarget
  constructor
  · intro hlisted
    obtain ⟨candidate, hcandidate, hrelated⟩ := exists_mem_of_forall₂ hentry.candidates.flip hlisted
    have hsame := (outlined _ _ hrelated).trans same.symm
    exact closed entry hmem candidate hcandidate target hfree hsame
  · intro hlisted
    obtain ⟨candidate, hcandidate, hrelated⟩ := exists_mem_of_forall₂ hentry.candidates hlisted
    have hsame := (outlined _ _ hrelated).symm.trans same
    exact closed' entry' hmem' candidate hcandidate target' hfree' hsame

/-- The target types that are left over are related, and list the same names. -/
theorem unmatchedTarget_related
    (h : Related R pool other) :
    List.Forall₂ (Unmatched.Related R) pool.unmatchedTarget other.unmatchedTarget := by
  rw [unmatchedTarget, unmatchedTarget, List.forall₂_map_left_iff, List.forall₂_map_right_iff]
  obtain ⟨hlength, hfrees⟩ := List.forall₂_iff_zip.mp h.free
  refine List.forall₂_iff_zip.mpr ⟨hlength, fun {target target'} hzip => ⟨hfrees hzip, ?_⟩⟩
  obtain ⟨hfree, hfree'⟩ := List.of_mem_zip hzip
  -- The types that list one target are those that list the other, place by place.
  have hlists :
      List.Forall₂ (fun entry entry' : Pending =>
          entry'.decl = entry.decl ∧ (target ∈ entry.candidates ↔ target' ∈ entry'.candidates))
        pool.pending other.pending := by
    obtain ⟨hlength', hentries⟩ := List.forall₂_iff_zip.mp h.pending
    refine List.forall₂_iff_zip.mpr ⟨hlength', fun {entry entry'} hpair => ?_⟩
    obtain ⟨hmem, hmem'⟩ := List.of_mem_zip hpair
    have hentry := hentries hpair
    exact ⟨hentry.decl,
      (mem_candidates_iff_related outlined closed closed' hentry hmem hmem' (hfrees hzip) hfree
        hfree').symm⟩
  have hlisting :
      List.Forall₂ (fun entry entry' : Pending =>
          entry'.decl = entry.decl ∧ (target ∈ entry.candidates ↔ target' ∈ entry'.candidates))
        (pool.pending.filter fun entry => entry.candidates.contains target)
        (other.pending.filter fun entry => entry.candidates.contains target') := by
    refine List.rel_filter (fun entry entry' hentry => ?_) hlists
    simpa using hentry.2
  rw [eq_comm, ← List.forall₂_eq_eq_eq, List.forall₂_map_left_iff, List.forall₂_map_right_iff]
  exact hlisting.imp fun entry entry' hentry => congrArg TypeDecl.fullName hentry.1.symm

end Related

end Pool

namespace Scope

theorem closed_settled
    (scope : Scope) :
    scope.settled.Closed := by
  have hoverridden : scope.overridden.1.Closed := by
    intro entry hentry candidate hcandidate
    rw [scope.beforeSteps_overridden.plain entry hentry] at hcandidate
    cases hcandidate
  have hequivalents := hoverridden.advance fun reference _ _ same =>
    declaredReason_eq_of_sameOutline same reference
  exact hequivalents.advance fun reference _ _ same =>
    namedReason_eq_of_sameOutline same scope reference

section Related

variable {R : TypeDecl → TypeDecl → Prop}
  (outlined : ∀ decl other, R decl other → decl.SameOutline other)
  {scope other : Scope} (settings : other.settings = scope.settings)
  (reference : other.reference = scope.reference)
  (target : List.Forall₂ R scope.target other.target)
include outlined settings reference target

/-- Target types with the same outlines are paired and left over alike. -/
theorem matching_related :
    Matching.Related R scope.matching other.matching := by
  obtain ⟨hpool, hwarnings⟩ := settled_related outlined settings reference target
  exact
    { matched := hpool.pairs
      unmatchedReference := Pool.unmatchedReference_related outlined hpool
      unmatchedTarget :=
        Pool.unmatchedTarget_related outlined scope.closed_settled other.closed_settled hpool
      warnings := hwarnings }

/-- Which written types are the same rests on outlines only. -/
theorem namesAgree_eq_of_outlined :
    other.namesAgree = scope.namesAgree := by
  have hnamespace (package : String) :
      other.targetNamespace package = scope.targetNamespace package := by
    rw [targetNamespace, targetNamespace, settings]
  have hmeet : other.namesMeet = scope.namesMeet := by
    funext written written'
    simp only [namesMeet, rule?_eq_of_targetNamespace hnamespace]
  have hagree (decl : TypeDecl) : other.typesAgree decl = scope.typesAgree decl := by
    funext decl'
    simp only [typesAgree, override?, settings, rule?_eq_of_targetNamespace hnamespace]
  have htarget (name : String) : Option.Rel R (scope.target? name) (other.target? name) := by
    rw [target?, target?, List.findRev?_eq_find?_reverse, List.findRev?_eq_find?_reverse]
    refine find?_related _ _ (fun decl decl' hrelated => ?_) (List.rel_reverse target)
    rw [(outlined _ _ hrelated).fullName]
  have helements : other.elementsAgree = scope.elementsAgree := by
    funext written written'
    have hfound := htarget written'
    simp only [elementsAgree, platformType?, reference?, settings, reference, hmeet, hagree]
    generalize scope.target? written' = found at hfound ⊢
    generalize other.target? written' = found' at hfound ⊢
    cases hfound with
    | none =>
        rfl
    | some hrelated =>
        have hsame := typesAgree_eq_of_sameOutline (outlined _ _ hrelated) scope
        cases scope.reference.findRev? (fun decl => decl.fullName == written) with
        | none =>
            rfl
        | some found =>
            simp only [hsame found]
  funext written written'
  simp only [namesAgree, helements]

end Related

end Scope

/-- A pair is found different or fails to be compared just as if the target type acknowledged
nothing, but for the parts of the difference that it acknowledges.  What target types acknowledge
changes nothing in a matching, in the answers of a scope about written types, and in the differences
that rest on them. -/
theorem acknowledged_differences_are_left_out
    (scope : Scope) :
    (∀ (reference target : TypeDecl) (known : Acknowledged),
      target.acknowledged = {} →
        (∀ error,
          scope.difference reference (target.acknowledging known) = .error error ↔
            scope.difference reference target = .error error) ∧
          ∀ difference,
            scope.difference reference target = .ok difference →
              scope.difference reference (target.acknowledging known) =
                .ok (difference.less known)) ∧
      ∀ other : Scope,
        other.settings = scope.settings → other.reference = scope.reference →
          List.Forall₂ TypeDecl.AlikeButAcknowledged scope.target other.target →
            Matching.Related TypeDecl.AlikeButAcknowledged scope.matching other.matching ∧
              other.namesAgree = scope.namesAgree ∧ other.difference = scope.difference := by
  constructor
  · intro reference target known plain
    rw [Scope.difference_acknowledging plain]
    cases scope.difference reference target with
    | error error =>
        exact ⟨fun _ => Iff.rfl, fun _ found => nomatch found⟩
    | ok difference =>
        refine ⟨fun _ => ⟨nofun, nofun⟩, fun difference' found => ?_⟩
        rw [← Except.ok.inj found]
        rfl
  · intro other settings reference target
    have outlined (decl other : TypeDecl) (h : decl.AlikeButAcknowledged other) :
        decl.SameOutline other :=
      h.sameOutline
    have hnames := Scope.namesAgree_eq_of_outlined outlined settings reference target
    exact ⟨Scope.matching_related outlined settings reference target, hnames,
      Scope.difference_eq_of_namesAgree hnames⟩

section Samples

/-- A final type with a base type, a contract and a field. -/
def gaugeReference : TypeDecl :=
  { TypeDecl.named .reference .classType "a.Gauge" with
    modifiers := ["public", "final"]
    baseType := some "a.Base"
    contracts := ["java.io.Serializable"]
    fields := [Member.field "size" "int"] }

/-- A counterpart that differs in all of these. -/
def gaugeTarget : TypeDecl :=
  { TypeDecl.named .target .classType "A.Gauge" with baseType := some "A.Other" }

/-- All differences between the two types. -/
def gaugeDifference : TypeDifference :=
  { modifiers := some ⟨["public", "final"], ["public"]⟩
    baseType := some ⟨some "a.Base", some "A.Other"⟩
    contracts := some ⟨["java.io.Serializable"], []⟩
    members := { referenceOnly := [⟨.field, "size", "size", [], false⟩] } }

theorem difference_gauge :
    Scope.sample.difference gaugeReference gaugeTarget = .ok gaugeDifference := by
  have hreference : Modifier.sorted .reference ["public", "final"] = ["public", "final"] :=
    List.mergeSort_of_pairwise (by decide)
  have htarget : Modifier.sorted .target ["public"] = ["public"] :=
    List.mergeSort_of_pairwise (by decide)
  have hmodifiers :
      Scope.modifierDifference? gaugeReference gaugeTarget =
        .ok (some
          ⟨Modifier.sorted .reference ["public", "final"], Modifier.sorted .target ["public"]⟩) :=
    rfl
  rw [Scope.difference, hmodifiers, hreference, htarget]
  decide +kernel

/-- The sample with two target types that acknowledge differences, one of them a candidate. -/
def acknowledgingSample : Scope :=
  { Scope.sample with
    target := Scope.sample.target.map fun decl =>
      if decl.fullName = "A.Outer_Entry" then decl.acknowledging { baseType := some "as intended" }
      else if decl.fullName = "A.Renamed" then decl.acknowledging { modifiers := some "renamed" }
      else decl }

/-- Only the base types are still reported once modifiers and contracts are acknowledged.  In the
sample the same types are paired, the same ones are ambiguous, and the same names correspond. -/
theorem acknowledged_differences_are_left_out_gauge :
    gaugeTarget.acknowledged = {} ∧
      Scope.sample.difference gaugeReference gaugeTarget = .ok gaugeDifference ∧
      Scope.sample.difference gaugeReference
          (gaugeTarget.acknowledging
            { modifiers := some "sealing is enforced elsewhere"
              contracts := some "no serialization" }) =
        .ok { gaugeDifference with modifiers := none, contracts := none } ∧
      List.Forall₂ TypeDecl.AlikeButAcknowledged Scope.sample.target acknowledgingSample.target ∧
      Matching.Related TypeDecl.AlikeButAcknowledged Scope.sample.matching
        acknowledgingSample.matching ∧
      acknowledgingSample.namesAgree = Scope.sample.namesAgree := by
  have htarget :
      List.Forall₂ TypeDecl.AlikeButAcknowledged Scope.sample.target
        acknowledgingSample.target := by
    rw [acknowledgingSample, List.forall₂_map_right_iff, List.forall₂_same]
    intro decl _
    split
    · exact ⟨_, rfl⟩
    · split
      · exact ⟨_, rfl⟩
      · exact ⟨decl.acknowledged, rfl⟩
  obtain ⟨parts, frame⟩ := acknowledged_differences_are_left_out Scope.sample
  obtain ⟨hmatching, hnames, _⟩ := frame acknowledgingSample rfl rfl htarget
  exact ⟨rfl, difference_gauge, (parts gaugeReference gaugeTarget _ rfl).2 _ difference_gauge,
    htarget, hmatching, hnames⟩

end Samples

end Counterpart
