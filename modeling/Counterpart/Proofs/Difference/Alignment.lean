import Counterpart.Proofs.Difference.Contracts
import Counterpart.Proofs.Difference.Members

/-!
# Lists that keep their order

A greedy pairing may give an element the partner that another one needs.  It does not where two
lists match one by one in the order in which they are listed: every element then finds its own
partner first among those not yet taken, whatever else it would match.  So members and contracts
that are declared in the same order on both sides are never left over.

* `GreedyPairing.greedyPairing_of_forall₂`: lists that match one by one are paired one by one.
* `Scope.typeMismatch?_isSome_iff`: a pair is reported if both declare types that do not correspond.
* `Scope.pairsInOrder_of_forall₂`: the members under one kind that keep their order.
* `kept_order_is_not_reported`: members and contracts that keep their order.
-/

namespace Counterpart

namespace GreedyPairing

section Aligned

variable {α β : Type} {meets : α → β → Bool} {left : List α} {right : List β}
  (aligned : List.Forall₂ (fun a b => meets a b = true) left right)
include aligned

/-- Lists that match one by one are paired one by one. -/
theorem greedyPairing_of_forall₂ :
    greedyPairing meets left right = ⟨left.zip right, [], []⟩ := by
  induction aligned with
  | nil =>
      rfl
  | cons hmeets _ ih =>
      -- The partner stands first on the right, so nothing in front of it can be taken instead.
      rw [greedyPairing_cons_of_some (List.find?_cons_of_pos hmeets),
        List.eraseP_cons_of_pos hmeets, ih]
      rfl

/-- The positions of lists that match one by one are paired one by one. -/
theorem positions_of_forall₂ :
    positions meets left right =
      ⟨(List.finRange left.length).zip (List.finRange right.length), [], []⟩ := by
  obtain ⟨hlength, hmeets⟩ := List.forall₂_iff_get.mp aligned
  apply greedyPairing_of_forall₂
  rw [List.forall₂_iff_get]
  refine ⟨by simpa using hlength, fun i hi hj => ?_⟩
  rw [List.length_finRange] at hi hj
  simpa using hmeets i hi hj

/-- Every position is paired with the position of the same number. -/
theorem pairing_of_forall₂
    (i : Fin left.length) :
    pairing meets left right i = some (i.cast aligned.length_eq) := by
  rw [pairing_eq_some_iff, positions_of_forall₂ aligned, List.mem_iff_getElem]
  refine ⟨i, by simp [← aligned.length_eq], ?_⟩
  rw [List.getElem_zip, List.getElem_finRange, List.getElem_finRange]
  rfl

theorem unpaired_left_of_forall₂ :
    unpaired left (pairing meets left right) = [] := by
  have hperm := leftOnly_perm_unpaired meets left right
  rw [greedyPairing_of_forall₂ aligned] at hperm
  exact hperm.nil_eq.symm

theorem unpaired_right_of_forall₂ :
    unpaired right (pairing meets left right).symm = [] := by
  have hperm := rightOnly_perm_unpaired meets left right
  rw [greedyPairing_of_forall₂ aligned] at hperm
  exact hperm.nil_eq.symm

theorem paired_of_forall₂ :
    paired left right (pairing meets left right) = left.zip right := by
  have hpairing :
      paired left right (pairing meets left right) =
        (List.finRange left.length).map fun i =>
          (left.get i, right.get (i.cast aligned.length_eq)) := by
    simp [paired, pairing_of_forall₂ aligned]
  rw [hpairing]
  apply List.ext_getElem
  · simp [← aligned.length_eq]
  · intro n _ _
    simp

end Aligned

end GreedyPairing

/-- The declared type of a field or property.  Methods return a type but declare none. -/
def Member.declaredType? (member : Member) : Option String :=
  if member.kind.holdsValue then member.resultType? else none

namespace Scope

/-- Two members declare types, and these do not correspond. -/
def DeclaredTypesDiffer (scope : Scope) (reference target : Member) : Prop :=
  ∃ referenceType targetType,
    reference.declaredType? = some referenceType ∧ target.declaredType? = some targetType ∧
      scope.namesAgree referenceType targetType = false

/-- Of two members of one kind a mismatch is reported exactly if their declared types differ. -/
theorem typeMismatch?_isSome_iff
    {scope : Scope} {reference target : Member}
    (same : reference.kind = target.kind) :
    (scope.typeMismatch? reference target).isSome = true ↔
      scope.DeclaredTypesDiffer reference target := by
  have hreported := scope.comparesValues_typeMismatch? same
  unfold DeclaredTypesDiffer Member.declaredType?
  rw [← same]
  generalize scope.typeMismatch? reference target = reported at hreported ⊢
  cases hreported with
  | silent notField notProperty =>
      have hsilent : reference.kind.holdsValue = false := by
        rw [← Bool.not_eq_true, Member.Kind.holdsValue_iff]
        exact not_or.mpr ⟨notField, notProperty⟩
      simp [hsilent]
  | agree value referenceDeclares targetDeclares agrees =>
      simp [Member.Kind.holdsValue_iff.mpr value, referenceDeclares, targetDeclares, agrees]
  | differ value referenceDeclares targetDeclares differs =>
      simp [Member.Kind.holdsValue_iff.mpr value, referenceDeclares, targetDeclares, differs]

/-- The members of two types under a kind are paired in the order in which they are declared, and
nothing but differing declared types is reported of them. -/
structure PairsInOrder
    (scope : Scope) {reference target : TypeDecl} (kind : Member.Kind)
    (pairings : MemberPositions reference target) :
    Prop where
  partner : ∀ i, (pairings kind i).map Fin.val = some i.val
  referenceOnly : unpaired (reference.group kind) (pairings kind) = []
  targetOnly : unpaired (target.group kind) (pairings kind).symm = []
  paired :
    paired (reference.group kind) (target.group kind) (pairings kind) =
      (reference.group kind).zip (target.group kind)
  reported :
    ∀ pair ∈ (reference.group kind).zip (target.group kind),
      (scope.typeMismatch? pair.1 pair.2).isSome = true ↔
        scope.DeclaredTypesDiffer pair.1 pair.2

section Aligned

variable {scope : Scope} {reference target : TypeDecl}

theorem pairsInOrder_of_forall₂
    {kind : Member.Kind}
    (aligned :
      List.Forall₂ (fun r t => scope.membersAgree r t = true)
        (reference.group kind) (target.group kind)) :
    scope.PairsInOrder kind (scope.memberPositions reference target) where
  partner i := by
    rw [memberPositions, GreedyPairing.pairing_of_forall₂ aligned]
    rfl
  referenceOnly := GreedyPairing.unpaired_left_of_forall₂ aligned
  targetOnly := GreedyPairing.unpaired_right_of_forall₂ aligned
  paired := GreedyPairing.paired_of_forall₂ aligned
  reported pair hpair :=
    typeMismatch?_isSome_iff (kind_eq_of_membersAgree (List.forall₂_zip aligned hpair))

/-- Types whose members all keep their order have no members that are declared on one side only. -/
theorem memberDifference_of_forall₂
    (aligned : ∀ kind,
      List.Forall₂ (fun r t => scope.membersAgree r t = true)
        (reference.group kind) (target.group kind)) :
    (scope.memberDifference reference target).referenceOnly = [] ∧
      (scope.memberDifference reference target).targetOnly = [] := by
  have hmade := scope.madeUpOf_memberPositions reference target
  have hreference := hmade.referenceOnly
  have htarget := hmade.targetOnly
  simp only [(pairsInOrder_of_forall₂ (aligned _)).referenceOnly, List.map_nil] at hreference
  simp only [(pairsInOrder_of_forall₂ (aligned _)).targetOnly, List.map_nil] at htarget
  rw [List.flatMap_eq_nil_iff.mpr fun _ _ => rfl] at hreference htarget
  exact ⟨hreference.eq_nil, htarget.eq_nil⟩

theorem contractDifference?_of_forall₂
    {contracts contracts' : List String}
    (aligned : List.Forall₂ (fun c c' => scope.namesAgree c c' = true) contracts contracts') :
    scope.contractDifference? contracts contracts' = none := by
  rw [contractDifference?, GreedyPairing.greedyPairing_of_forall₂ aligned]
  rfl

end Aligned

/-- What is declared in the same order on both sides is not left over.  The members under a kind are
paired one by one if they match one by one, whatever else they match, and of each pair only
declared types that differ are reported; the same holds of contracts. -/
theorem kept_order_is_not_reported
    (scope : Scope) :
    (∀ (reference target : TypeDecl) (kind : Member.Kind),
      List.Forall₂ (fun r t => scope.membersAgree r t = true)
          (reference.group kind) (target.group kind) →
        scope.MadeUpOf (scope.memberPositions reference target)
            (scope.memberDifference reference target) ∧
          scope.PairsInOrder kind (scope.memberPositions reference target)) ∧
      (∀ reference target : TypeDecl,
        (∀ kind,
          List.Forall₂ (fun r t => scope.membersAgree r t = true)
            (reference.group kind) (target.group kind)) →
          (scope.memberDifference reference target).referenceOnly = [] ∧
            (scope.memberDifference reference target).targetOnly = []) ∧
      ∀ contracts contracts' : List String,
        List.Forall₂ (fun c c' => scope.namesAgree c c' = true) contracts contracts' →
          scope.contractDifference? contracts contracts' = none := by
  refine ⟨fun reference target kind aligned => ?_, fun _ _ => memberDifference_of_forall₂,
    fun _ _ => contractDifference?_of_forall₂⟩
  exact ⟨scope.madeUpOf_memberPositions reference target, pairsInOrder_of_forall₂ aligned⟩

section Samples

/-- A type with two methods of one name, of which the second takes a nested type. -/
def overloadedReference : TypeDecl :=
  { TypeDecl.named .reference .classType "a.Door" with
    fields := [{ Member.field "size" "long" with modifiers := ["public"] }]
    methods :=
      [{ Member.method "open" ["a.Key"] "void" with modifiers := ["public"] },
        { Member.method "open" ["a.Ring$Key"] "void" with modifiers := ["public"] }]
    contracts := ["a.Key", "a.Ring$Key"] }

/-- The counterpart, with the members in the same order and a field of another type. -/
def overloadedTarget : TypeDecl :=
  { TypeDecl.named .target .classType "A.Door" with
    fields := [{ Member.field "size" "System.Int32" with modifiers := ["public"] }]
    methods :=
      [{ Member.method "open" ["A.Key"] "System.Void" with modifiers := ["public"] },
        { Member.method "open" ["A.Ring_Key"] "System.Void" with modifiers := ["public"] }]
    contracts := ["A.Key", "A.Ring_Key"] }

/-- Both methods match the first one of the other side, and so do both contracts.  They are paired
in order all the same; what is reported is the declared type of the field. -/
theorem kept_order_is_not_reported_door :
    (∀ r ∈ overloadedReference.methods, ∀ t ∈ overloadedTarget.methods.take 1,
        unpopulated.membersAgree r t = true) ∧
      (∀ contract ∈ overloadedReference.contracts, unpopulated.namesAgree contract "A.Key" = true) ∧
      (∀ kind,
        List.Forall₂ (fun r t => unpopulated.membersAgree r t = true)
          (overloadedReference.group kind) (overloadedTarget.group kind)) ∧
      List.Forall₂ (fun c c' => unpopulated.namesAgree c c' = true)
        overloadedReference.contracts overloadedTarget.contracts ∧
      (∀ kind,
        unpopulated.PairsInOrder kind
          (unpopulated.memberPositions overloadedReference overloadedTarget)) ∧
      (unpopulated.memberDifference overloadedReference overloadedTarget).referenceOnly = [] ∧
      (unpopulated.memberDifference overloadedReference overloadedTarget).targetOnly = [] ∧
      (unpopulated.memberDifference overloadedReference overloadedTarget).mismatches =
        [⟨.field, "size", "size", "long", "System.Int32"⟩] ∧
      unpopulated.contractDifference? overloadedReference.contracts overloadedTarget.contracts =
        none := by
  have aligned (kind : Member.Kind) :
      List.Forall₂ (fun r t => unpopulated.membersAgree r t = true)
        (overloadedReference.group kind) (overloadedTarget.group kind) := by
    cases kind <;> decide +kernel
  have alignedContracts :
      List.Forall₂ (fun c c' => unpopulated.namesAgree c c' = true)
        overloadedReference.contracts overloadedTarget.contracts := by
    decide +kernel
  obtain ⟨kinds, types, contracts⟩ := kept_order_is_not_reported unpopulated
  obtain ⟨referenceOnly, targetOnly⟩ := types _ _ aligned
  exact ⟨by decide +kernel, by decide +kernel, aligned, alignedContracts,
    fun kind => (kinds _ _ kind (aligned kind)).2, referenceOnly, targetOnly, by decide +kernel,
    contracts _ _ alignedContracts⟩

end Samples

end Scope
end Counterpart
