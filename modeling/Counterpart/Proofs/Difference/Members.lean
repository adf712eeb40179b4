import Counterpart.Difference.Member
import Counterpart.Proofs.Difference.Positions
import Counterpart.Proofs.Sorting
import Mathlib.Data.String.Basic

/-!
# Members are paired one to one, and none is lost

Under every kind the positions of the reference members are paired one to one with positions of
target members.  The difference of two types is made up of exactly what these pairings leave over
on either side, and of the pairs whose declared types do not correspond.  A member may be declared
several times, and it may be declared under a kind that is not its own.

* `comparesValues_typeMismatch?`: what is reported of a pair of members of one kind.
* `madeUpOf_memberPositions`: the difference is the one that the pairings of positions give.
* `member_difference_of_maximal_pairings`: nothing is lost, and nothing more can be paired.
-/

namespace Counterpart

instance : Std.TransCmp MemberEntry.order := by
  unfold MemberEntry.order
  infer_instance

instance : Std.TransCmp ValueTypeMismatch.order := by
  unfold ValueTypeMismatch.order
  infer_instance

/-- All lists of a difference are sorted. -/
structure MemberDifference.Sorted (difference : MemberDifference) : Prop where
  referenceOnly :
    difference.referenceOnly.Pairwise fun a b => (MemberEntry.order a b).isLE = true
  targetOnly :
    difference.targetOnly.Pairwise fun a b => (MemberEntry.order a b).isLE = true
  mismatches :
    difference.mismatches.Pairwise fun a b => (ValueTypeMismatch.order a b).isLE = true

/-- One-to-one pairings of the positions of two types' members, one for every kind under which
members are declared. -/
abbrev MemberPositions (reference target : TypeDecl) : Type :=
  (kind : Member.Kind) → Fin (reference.group kind).length ≃. Fin (target.group kind).length

/-- A field or property has a declared type. -/
theorem Member.exists_resultType?_eq_some
    {member : Member}
    (value : member.kind = .field ∨ member.kind = .property) :
    ∃ declared, member.resultType? = some declared := by
  cases h : member.shape <;> simp [Member.kind, Member.resultType?, Member.Shape.kind,
    Member.Shape.resultType?, h] at value ⊢

namespace Scope

/-- What the declared types of two paired members give rise to. -/
inductive ComparesValues (scope : Scope) (reference target : Member) :
    Option ValueTypeMismatch → Prop
  /-- Methods and constructors are not compared. -/
  | silent
      (notField : reference.kind ≠ .field)
      (notProperty : reference.kind ≠ .property) :
      scope.ComparesValues reference target none
  | agree
      {referenceType targetType : String}
      (value : reference.kind = .field ∨ reference.kind = .property)
      (referenceDeclares : reference.resultType? = some referenceType)
      (targetDeclares : target.resultType? = some targetType)
      (agrees : scope.namesAgree referenceType targetType = true) :
      scope.ComparesValues reference target none
  | differ
      {referenceType targetType : String}
      (value : reference.kind = .field ∨ reference.kind = .property)
      (referenceDeclares : reference.resultType? = some referenceType)
      (targetDeclares : target.resultType? = some targetType)
      (differs : scope.namesAgree referenceType targetType = false) :
      scope.ComparesValues reference target
        (some
          { kind := reference.kind
            referenceName := reference.name
            targetName := target.name
            referenceType
            targetType })

/-- A difference of two types that is made up of what pairings of positions leave over, and of
what comes of the declared types of the pairs. -/
structure MadeUpOf
    (scope : Scope) {reference target : TypeDecl} (pairings : MemberPositions reference target)
    (difference : MemberDifference) :
    Prop where
  referenceOnly :
    difference.referenceOnly.Perm <|
      Member.Kind.all.flatMap fun kind =>
        (unpaired (reference.group kind) (pairings kind)).map (Member.entry .reference)
  targetOnly :
    difference.targetOnly.Perm <|
      Member.Kind.all.flatMap fun kind =>
        (unpaired (target.group kind) (pairings kind).symm).map (Member.entry .target)
  mismatches :
    difference.mismatches.Perm <|
      Member.Kind.all.flatMap fun kind =>
        (paired (reference.group kind) (target.group kind) (pairings kind)).filterMap fun pair =>
          scope.typeMismatch? pair.1 pair.2
  compared :
    ∀ kind, ∀ pair ∈ paired (reference.group kind) (target.group kind) (pairings kind),
      scope.ComparesValues pair.1 pair.2 (scope.typeMismatch? pair.1 pair.2)

theorem comparesValues_typeMismatch?
    {scope : Scope} {reference target : Member}
    (same : reference.kind = target.kind) :
    scope.ComparesValues reference target (scope.typeMismatch? reference target) := by
  cases hvalue : reference.kind.holdsValue with
  | true =>
      have value := Member.Kind.holdsValue_iff.mp hvalue
      obtain ⟨referenceType, hreference⟩ := Member.exists_resultType?_eq_some value
      obtain ⟨targetType, htarget⟩ := Member.exists_resultType?_eq_some (same ▸ value)
      simp only [typeMismatch?, hvalue, hreference, htarget]
      cases hagree : scope.namesAgree referenceType targetType with
      | true =>
          exact .agree value hreference htarget hagree
      | false =>
          exact .differ value hreference htarget hagree
  | false =>
      have hsilent : ¬ (reference.kind = .field ∨ reference.kind = .property) := by
        rw [← Member.Kind.holdsValue_iff, hvalue]
        exact Bool.false_ne_true
      obtain ⟨notField, notProperty⟩ := not_or.mp hsilent
      simp only [typeMismatch?, hvalue]
      exact .silent notField notProperty

/-- The pairing of the positions of two types' members under every kind. -/
def memberPositions (scope : Scope) (reference target : TypeDecl) :
    MemberPositions reference target :=
  fun kind => GreedyPairing.pairing scope.membersAgree (reference.group kind) (target.group kind)

theorem kind_eq_of_membersAgree
    {scope : Scope} {reference target : Member}
    (h : scope.membersAgree reference target = true) :
    reference.kind = target.kind := by
  simp only [membersAgree, Bool.and_eq_true, beq_iff_eq] at h
  exact h.1.1.1.1

variable (scope : Scope) (reference target : TypeDecl)

/-- The difference of two types is the one that the pairings of positions give. -/
theorem madeUpOf_memberPositions :
    scope.MadeUpOf (scope.memberPositions reference target)
      (scope.memberDifference reference target) where
  referenceOnly := by
    refine (List.mergeSort_perm _ _).trans ?_
    rw [List.flatMap_map]
    exact List.Perm.flatMap_left _ fun kind _ =>
      (GreedyPairing.leftOnly_perm_unpaired _ _ _).map _
  targetOnly := by
    refine (List.mergeSort_perm _ _).trans ?_
    rw [List.flatMap_map]
    exact List.Perm.flatMap_left _ fun kind _ =>
      (GreedyPairing.rightOnly_perm_unpaired _ _ _).map _
  mismatches := by
    refine (List.mergeSort_perm _ _).trans ?_
    rw [List.flatMap_map]
    exact List.Perm.flatMap_left _ fun kind _ =>
      (GreedyPairing.pairs_perm_paired _ _ _).filterMap _
  compared := by
    intro kind pair hpair
    have hgreedy : pair ∈ (scope.pairMembers reference target kind).pairs :=
      (GreedyPairing.pairs_perm_paired _ _ _).mem_iff.mpr hpair
    exact comparesValues_typeMismatch?
      (kind_eq_of_membersAgree (GreedyPairing.meets_of_mem_pairs hgreedy))

theorem sorted_memberDifference :
    (scope.memberDifference reference target).Sorted where
  referenceOnly := pairwise_mergeSort MemberEntry.order _
  targetOnly := pairwise_mergeSort MemberEntry.order _
  mismatches := pairwise_mergeSort ValueTypeMismatch.order _

end Scope

/-- For any two types there are maximal one-to-one pairings of the positions of their members, and
the difference of the types is exactly what these leave over, sorted.  So the members of either
type under a kind are those with a partner and those reported. -/
theorem member_difference_of_maximal_pairings
    (scope : Scope) (reference target : TypeDecl) :
    ∃ pairings : MemberPositions reference target,
      (∀ kind,
        MaximalPairing scope.membersAgree (reference.group kind) (target.group kind)
          (pairings kind)) ∧
      scope.MadeUpOf pairings (scope.memberDifference reference target) ∧
      (scope.memberDifference reference target).Sorted ∧
      ∀ kind,
        ((reference.group kind).length : Int) -
            (unpaired (reference.group kind) (pairings kind)).length =
          (target.group kind).length -
            (unpaired (target.group kind) (pairings kind).symm).length := by
  refine ⟨scope.memberPositions reference target, ?_,
    scope.madeUpOf_memberPositions reference target,
    scope.sorted_memberDifference reference target, ?_⟩
  · intro kind
    exact GreedyPairing.maximalPairing_pairing _ _ _
  · intro kind
    have hreference := GreedyPairing.length_eq_left scope.membersAgree (reference.group kind)
      (target.group kind)
    have htarget := GreedyPairing.length_eq_right scope.membersAgree (reference.group kind)
      (target.group kind)
    rw [Scope.memberPositions]
    omega

end Counterpart
