import Counterpart.Proofs.Correspondence.Lookup
import Counterpart.Proofs.Difference.Orders
import Counterpart.Proofs.Difference.Visibility
import Counterpart.Proofs.Sorting
import Mathlib.Data.String.Basic

/-!
# Contracts in another order

The contracts of two types are paired greedily, in the order in which they are listed.  Where two
contracts of one side correspond to the same one of the other, one order may leave some over that
another leaves in pairs, so the order of the contracts may show in a difference.  It does not
exactly if all maximal pairings leave the same contracts over, and so it never does if every
contract has at most one counterpart.

* `contract_difference_over_orders`: when the order of the contracts does not matter.
* `contract_order_in_difference`: contracts whose order does matter.
-/

namespace Counterpart

namespace ContractDifference

/-- What is reported of a pairing of contracts: those left over, if there are any. -/
def ofPairing? (pairing : GreedyPairing String String) : Option ContractDifference :=
  if pairing.leftOnly.isEmpty && pairing.rightOnly.isEmpty then none
  else some ⟨sortNames pairing.leftOnly, sortNames pairing.rightOnly⟩

theorem sortNames_eq_iff_perm
    {names names' : List String} :
    sortNames names = sortNames names' ↔ names.Perm names' :=
  mergeSort_eq_iff_perm compare

/-- A report shows how often each contract is left over, and nothing else. -/
theorem ofPairing?_eq_iff
    {first second : GreedyPairing String String} :
    ofPairing? first = ofPairing? second ↔
      first.leftOnly.Perm second.leftOnly ∧ first.rightOnly.Perm second.rightOnly := by
  unfold ofPairing?
  constructor
  · intro h
    split at h <;> split at h <;> simp_all [sortNames_eq_iff_perm]
  · rintro ⟨hleft, hright⟩
    rw [hleft.isEmpty_eq, hright.isEmpty_eq, sortNames_eq_iff_perm.mpr hleft,
      sortNames_eq_iff_perm.mpr hright]

end ContractDifference

namespace Scope

/-- The difference of two types is the same whatever the order of their contracts. -/
def IgnoresContractOrder (scope : Scope) (reference target : TypeDecl) : Prop :=
  ∀ contracts contracts',
    contracts.Perm reference.contracts → contracts'.Perm target.contracts →
      scope.difference { reference with contracts } { target with contracts := contracts' } =
        scope.difference reference target

/-- However contracts are paired, as long as nothing can be added, the same ones are left over. -/
def LeavesSameContracts (scope : Scope) (reference target : List String) : Prop :=
  ∀ first second : GreedyPairing String String,
    first.IsMaximal scope.namesAgree reference target →
      second.IsMaximal scope.namesAgree reference target →
        first.leftOnly.Perm second.leftOnly ∧ first.rightOnly.Perm second.rightOnly

section Orders

variable {scope : Scope}

theorem contractDifference?_eq_ofPairing?
    (reference target : List String) :
    scope.contractDifference? reference target =
      ContractDifference.ofPairing? (greedyPairing scope.namesAgree reference target) :=
  rfl

/-- Contracts are reported alike in all orders if and only if all maximal pairings leave the same
over: every maximal pairing is the greedy one in some order. -/
theorem contractDifference?_eq_iff
    {reference target : List String} :
    (∀ contracts contracts', contracts.Perm reference → contracts'.Perm target →
        scope.contractDifference? contracts contracts' =
          scope.contractDifference? reference target) ↔
      scope.LeavesSameContracts reference target := by
  simp only [contractDifference?_eq_ofPairing?, ContractDifference.ofPairing?_eq_iff]
  have hgreedy := GreedyPairing.isMaximal_greedyPairing scope.namesAgree reference target
  constructor
  · intro hsame first second hfirst hsecond
    have hlisted {pairing : GreedyPairing String String}
        (h : pairing.IsMaximal scope.namesAgree reference target) :
        pairing.leftOnly.Perm (greedyPairing scope.namesAgree reference target).leftOnly ∧
          pairing.rightOnly.Perm (greedyPairing scope.namesAgree reference target).rightOnly := by
      obtain ⟨contracts, contracts', hcontracts, hcontracts', rfl⟩ :=
        GreedyPairing.exists_orders_iff.mpr h
      exact hsame contracts contracts' hcontracts hcontracts'
    exact ⟨(hlisted hfirst).1.trans (hlisted hsecond).1.symm,
      (hlisted hfirst).2.trans (hlisted hsecond).2.symm⟩
  · intro hsame contracts contracts' hcontracts hcontracts'
    exact hsame _ _
      (GreedyPairing.exists_orders_iff.mp ⟨contracts, contracts', hcontracts, hcontracts', rfl⟩)
      hgreedy

theorem leavesSameContracts_of_oneToOne
    {reference target : List String}
    (oneToOne : GreedyPairing.OneToOne scope.namesAgree reference target) :
    scope.LeavesSameContracts reference target :=
  fun _ _ hfirst hsecond =>
    ⟨hfirst.leftOnly_perm oneToOne hsecond, hfirst.rightOnly_perm oneToOne hsecond⟩

/-- Contracts decide on one part of a difference, unless that part is acknowledged. -/
theorem difference_of_contracts
    (reference target : TypeDecl) (contracts contracts' : List String) :
    scope.difference { reference with contracts } { target with contracts := contracts' } =
      (scope.difference reference target).map fun difference =>
        { difference with
          contracts :=
            if target.acknowledged.contracts.isSome then none
            else scope.contractDifference? contracts contracts' } := by
  unfold difference
  have hmodifiers :
      modifierDifference? { reference with contracts } { target with contracts := contracts' } =
        modifierDifference? reference target :=
    rfl
  rw [hmodifiers]
  cases modifierDifference? reference target <;> rfl

theorem contracts_of_difference_eq_ok
    {reference target : TypeDecl} {difference : TypeDifference}
    (h : scope.difference reference target = .ok difference) :
    difference.contracts =
      if target.acknowledged.contracts.isSome then none
      else scope.contractDifference? reference.contracts target.contracts := by
  obtain ⟨_, _, rfl⟩ := exists_modifiers_of_difference_eq_ok h
  rfl

/-- Other contracts change a difference just if they are compared and reported otherwise. -/
theorem difference_of_contracts_eq_iff
    {reference target : TypeDecl} {contracts contracts' : List String} :
    scope.difference { reference with contracts } { target with contracts := contracts' } =
        scope.difference reference target ↔
      (reference.isPublic = true → target.isPublic = true →
        target.acknowledged.contracts = none →
          scope.contractDifference? contracts contracts' =
            scope.contractDifference? reference.contracts target.contracts) := by
  rw [difference_of_contracts]
  cases hdifference : scope.difference reference target with
  | error error =>
      have hnever : ¬ (reference.isPublic = true ∧ target.isPublic = true) := by
        rw [← exists_difference_eq_ok_iff scope, hdifference]
        simp
      exact iff_of_true rfl fun hreference htarget => absurd ⟨hreference, htarget⟩ hnever
  | ok difference =>
      obtain ⟨hreference, htarget⟩ :=
        (exists_difference_eq_ok_iff scope).mp ⟨difference, hdifference⟩
      have hreported := contracts_of_difference_eq_ok hdifference
      have hpart {contracts : Option ContractDifference} :
          { difference with contracts } = difference ↔ contracts = difference.contracts := by
        cases difference
        simp
      simp only [Except.map, Except.ok.injEq, hreference, htarget, forall_const, hpart, hreported]
      cases target.acknowledged.contracts <;> simp

end Orders

/-- The order of the contracts does not matter exactly if they are not compared, or all maximal
pairings of them leave the same over.  So it does not if each has at most one counterpart. -/
theorem contract_difference_over_orders
    (scope : Scope) (reference target : TypeDecl) :
    (scope.IgnoresContractOrder reference target ↔
      (reference.isPublic = true → target.isPublic = true →
        target.acknowledged.contracts = none →
          scope.LeavesSameContracts reference.contracts target.contracts)) ∧
      (GreedyPairing.OneToOne scope.namesAgree reference.contracts target.contracts →
        scope.IgnoresContractOrder reference target) := by
  have hiff :
      scope.IgnoresContractOrder reference target ↔
        (reference.isPublic = true → target.isPublic = true →
          target.acknowledged.contracts = none →
            scope.LeavesSameContracts reference.contracts target.contracts) := by
    unfold IgnoresContractOrder
    simp only [difference_of_contracts_eq_iff, ← contractDifference?_eq_iff]
    constructor
    · intro h hreference htarget hreported contracts contracts' hcontracts hcontracts'
      exact h contracts contracts' hcontracts hcontracts' hreference htarget hreported
    · intro h contracts contracts' hcontracts hcontracts' hreference htarget hreported
      exact h hreference htarget hreported contracts contracts' hcontracts hcontracts'
  exact ⟨hiff, fun oneToOne => hiff.mpr fun _ _ _ => leavesSameContracts_of_oneToOne oneToOne⟩

section Samples

/-- No contract has more than one counterpart, and one has none. -/
theorem contract_difference_over_orders_reader :
    GreedyPairing.OneToOne unpopulated.namesAgree ["java.io.Closeable", "a.Source", "a.Lines"]
        ["A.ISource", "System.IDisposable"] ∧
      unpopulated.IgnoresContractOrder
        { TypeDecl.named .reference .classType "a.Reader" with
            contracts := ["java.io.Closeable", "a.Source", "a.Lines"] }
        { TypeDecl.named .target .classType "A.Reader" with
            contracts := ["A.ISource", "System.IDisposable"] } := by
  have oneToOne :
      GreedyPairing.OneToOne unpopulated.namesAgree ["java.io.Closeable", "a.Source", "a.Lines"]
        ["A.ISource", "System.IDisposable"] :=
    ⟨by decide +kernel, by decide +kernel⟩
  exact ⟨oneToOne, (contract_difference_over_orders _ _ _).2 oneToOne⟩

/-- A type with a nested contract and one that has the same innermost name. -/
def crossedReference : TypeDecl :=
  { TypeDecl.named .reference .classType "a.Widget" with contracts := ["a.Outer$Foo", "a.Foo"] }

/-- The counterpart: both contracts correspond to the nested one, the first also to the other. -/
def crossedTarget : TypeDecl :=
  { TypeDecl.named .target .classType "A.Widget" with contracts := ["A.Foo", "A.Outer_Foo"] }

/-- Listed in front, the nested contract takes the only counterpart of the other one. -/
theorem contract_order_in_difference :
    (unpopulated.difference crossedReference crossedTarget).map TypeDifference.contracts =
        .ok (some ⟨["a.Foo"], ["A.Outer_Foo"]⟩) ∧
      (unpopulated.difference { crossedReference with contracts := ["a.Foo", "a.Outer$Foo"] }
          crossedTarget).map TypeDifference.contracts =
        .ok none ∧
      ¬ unpopulated.IgnoresContractOrder crossedReference crossedTarget := by
  have hgiven :
      (unpopulated.difference crossedReference crossedTarget).map TypeDifference.contracts =
        .ok (some ⟨["a.Foo"], ["A.Outer_Foo"]⟩) := by
    decide +kernel
  have hother :
      (unpopulated.difference { crossedReference with contracts := ["a.Foo", "a.Outer$Foo"] }
          crossedTarget).map TypeDifference.contracts =
        .ok none := by
    decide +kernel
  refine ⟨hgiven, hother, fun h => ?_⟩
  have hsame :=
    h ["a.Foo", "a.Outer$Foo"] crossedTarget.contracts (List.Perm.swap ..) (List.Perm.refl _)
  rw [← hsame] at hgiven
  exact absurd (hgiven.symm.trans hother) (by decide)

end Samples

end Scope
end Counterpart
