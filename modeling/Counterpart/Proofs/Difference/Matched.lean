import Counterpart.Difference.Structure
import Counterpart.Proofs.Correspondence.Written
import Counterpart.Proofs.Difference.Orders
import Counterpart.Proofs.Matching.Heeded
import Counterpart.Proofs.Matching.Justification

/-!
# Matched types are the same wherever they are written

Two procedures say which types are the same: the matching of all types, and the comparison of two
written names that differences rest on.  Without refused overrides they agree on every matched pair,
so a declaration that writes the two names in the same place does not differ there.

Members have no fixed places: they are paired greedily, in the order of their declaration.  The
contracts of a type are a set, but they are paired in the order in which they are listed as well.
So a contract may be reported although both types have it: its counterpart went to another one.

* `typesAgree_of_mem_matched`: the types of a pair correspond as declared.
* `matched_names_never_differ`: what follows for written names.
* `matched_contract_left_over`: a contract that is reported although both types have it.
-/

namespace Counterpart

namespace Scope

/-- The names of a pair are written as they are, and the table of platform types says nothing of
the target type. -/
structure Plain (scope : Scope) (pairing : Pairing) : Prop where
  reference : Naming.TypeName.IsElement pairing.reference.fullName
  target : Naming.TypeName.IsElement pairing.target.fullName
  unlisted :
    ∀ entry ∈ scope.settings.platformTypes,
      entry.target ≠ (Naming.Path.ofText .target pairing.target.fullName).dotted

instance (scope : Scope) (pairing : Pairing) : Decidable (scope.Plain pairing) :=
  decidable_of_iff
    (Naming.TypeName.IsElement pairing.reference.fullName ∧
      Naming.TypeName.IsElement pairing.target.fullName ∧
      ∀ entry ∈ scope.settings.platformTypes,
        entry.target ≠ (Naming.Path.ofText .target pairing.target.fullName).dotted)
    ⟨fun h => ⟨h.1, h.2.1, h.2.2⟩, fun h => ⟨h.reference, h.target, h.unlisted⟩⟩

/-- If no override was refused, the pairs by override are those of the settings. -/
theorem names_overridden
    {scope : Scope} (accepted : scope.matching.warnings = []) :
    scope.overridden.1.pairs.map Pairing.names =
      scope.settings.overrides.map Override.names := by
  rw [overridden, Pool.names_overrideAll, Pool.heeded_eq_of_warnings_eq_nil accepted]
  rfl

theorem of_override?_eq_some
    {scope : Scope} {name : String} {entry : Override}
    (h : scope.override? name = some entry) :
    entry ∈ scope.settings.overrides ∧ entry.reference = name :=
  ⟨List.mem_of_find?_eq_some h, by simpa using List.find?_some h⟩

theorem ne_of_override?_eq_none
    {scope : Scope} {name : String}
    (h : scope.override? name = none) :
    ∀ entry ∈ scope.settings.overrides, entry.reference ≠ name := by
  simpa [override?] using h

theorem mem_matched_of_mem_overridden
    {scope : Scope} {pairing : Pairing}
    (h : pairing ∈ scope.overridden.1.pairs) :
    pairing ∈ scope.matching.matched := by
  rw [matched_eq, List.append_assoc]
  exact List.mem_append_left _ h

theorem mem_of_mem_matched
    {scope : Scope} {pairing : Pairing}
    (h : pairing ∈ scope.matching.matched) :
    pairing.reference ∈ scope.reference ∧ pairing.target ∈ scope.target :=
  scope.reached_settled.mem_of_mem_pairs h

section Accepted

variable {scope : Scope} (distinct : scope.DistinctNames)
  (accepted : scope.matching.warnings = []) {pairing : Pairing}
  (hpairing : pairing ∈ scope.matching.matched)
include distinct accepted hpairing

/-- The override that decides on a matched type names the target it is matched with. -/
theorem target_of_override?_eq_some
    {entry : Override}
    (h : scope.override? pairing.reference.fullName = some entry) :
    entry.target = pairing.target.fullName := by
  obtain ⟨hentry, hnamed⟩ := of_override?_eq_some h
  have hnames := List.mem_map_of_mem (f := Override.names) hentry
  rw [← names_overridden accepted] at hnames
  obtain ⟨other, hother, hsame⟩ := List.mem_map.mp hnames
  have hmatched := mem_matched_of_mem_overridden hother
  have hname : other.reference.fullName = pairing.reference.fullName :=
    (congrArg Prod.fst hsame).trans hnamed
  have hreference : other.reference = pairing.reference :=
    distinct.reference_eq (mem_of_mem_matched hmatched).1 (mem_of_mem_matched hpairing).1 hname
  obtain rfl :=
    scope.reached_settled.eq_of_reference_eq distinct hmatched hpairing hreference
  exact (congrArg Prod.snd hsame).symm

omit distinct in
/-- A matched type that no override decides on was matched in one of the steps. -/
theorem exists_step_of_override?_eq_none
    (h : scope.override? pairing.reference.fullName = none) :
    ∃ step, scope.reason? step pairing.reference pairing.target = some pairing.reason := by
  rw [matched_eq, List.append_assoc, List.mem_append, List.mem_append] at hpairing
  rcases hpairing with hoverridden | hrun | hrun
  · have hnames : pairing.names ∈ scope.overridden.1.pairs.map Pairing.names :=
      List.mem_map_of_mem hoverridden
    rw [names_overridden accepted] at hnames
    obtain ⟨entry, hentry, hsame⟩ := List.mem_map.mp hnames
    exact absurd (congrArg Prod.fst hsame) (ne_of_override?_eq_none h entry hentry)
  · exact ⟨.equivalents, (reason?_of_mem_run hrun).1⟩
  · exact ⟨.names, (reason?_of_mem_run hrun).1⟩

/-- The types of a matched pair correspond as declared: each of the three ways to match them is
one of the ways to correspond. -/
theorem typesAgree_of_mem_matched :
    scope.typesAgree pairing.reference pairing.target = true := by
  unfold typesAgree
  cases hoverride : scope.override? pairing.reference.fullName with
  | some entry =>
      simpa using target_of_override?_eq_some distinct accepted hpairing hoverride
  | none =>
      obtain ⟨step, hreason⟩ := exists_step_of_override?_eq_none accepted hpairing hoverride
      cases step with
      | equivalents =>
          simp only [reason?, declaredReason, Option.ite_none_right_eq_some] at hreason
          simp [declaredEquivalent_of_declares hreason.1, hreason.1]
      | names =>
          simp only [reason?, namedReason, Option.ite_none_left_eq_some,
            Option.map_eq_some_iff] at hreason
          obtain ⟨hplain, rule, hrule, _⟩ := hreason
          simp [hplain, hrule]

theorem namesAgree_of_mem_matched
    (plain : scope.Plain pairing) :
    scope.namesAgree pairing.reference.fullName pairing.target.fullName = true := by
  have hmem := mem_of_mem_matched hpairing
  rw [namesAgree_of_listed distinct hmem.1 hmem.2 plain.reference plain.target plain.unlisted,
    typesAgree_of_mem_matched distinct accepted hpairing, Bool.or_true]

end Accepted

/-- Two written names that no difference tells apart where they stand in the same place. -/
structure Unites (scope : Scope) (reference target : String) : Prop where
  names : scope.namesAgree reference target = true
  baseType :
    ∀ first second : TypeDecl,
      first.baseType = some reference → second.baseType = some target →
        scope.baseTypeDifference? first second = none
  declaredType :
    ∀ (first second : TypeDecl),
      ∀ mismatch ∈ (scope.memberDifference first second).mismatches,
        ¬ (mismatch.referenceType = reference ∧ mismatch.targetType = target)
  /-- Parameters at one place can be left out. -/
  parameter :
    ∀ before after before' after',
      before.length = before'.length →
        scope.parametersAgree (before ++ reference :: after) (before' ++ target :: after') =
          scope.parametersAgree (before ++ after) (before' ++ after')
  /-- Of two members that are the same declaration at most one is left over. -/
  member :
    ∀ (first second : TypeDecl) (kind : Member.Kind),
      ∀ left ∈ (scope.pairMembers first second kind).leftOnly,
        ∀ right ∈ (scope.pairMembers first second kind).rightOnly,
          scope.membersAgree left right = false
  /-- Of two contracts at most one is left over, and only if the other one was taken. -/
  contract :
    ∀ first second difference,
      scope.contractDifference? first second = some difference →
        (reference ∈ difference.referenceOnly → target ∈ second →
          target ∉ difference.targetOnly ∧
            ∃ other, (other, target) ∈ (greedyPairing scope.namesAgree first second).pairs) ∧
        (target ∈ difference.targetOnly → reference ∈ first →
          reference ∉ difference.referenceOnly ∧
            ∃ other, (reference, other) ∈ (greedyPairing scope.namesAgree first second).pairs)
  /-- A contract is left over only if it is listed more often than the other one, or if that one
  went to a rival. -/
  rival :
    ∀ first second difference,
      scope.contractDifference? first second = some difference →
        (reference ∈ difference.referenceOnly →
          second.count target < first.count reference ∨
            ∃ other, other ≠ reference ∧
              (other, target) ∈ (greedyPairing scope.namesAgree first second).pairs) ∧
        (target ∈ difference.targetOnly →
          first.count reference < second.count target ∨
            ∃ other, other ≠ target ∧
              (reference, other) ∈ (greedyPairing scope.namesAgree first second).pairs)

theorem parametersAgree_insert
    {scope : Scope} {reference target : String}
    (agree : scope.namesAgree reference target = true)
    {before after before' after' : List String}
    (same : before.length = before'.length) :
    scope.parametersAgree (before ++ reference :: after) (before' ++ target :: after') =
      scope.parametersAgree (before ++ after) (before' ++ after') := by
  have hlength :
      ((before ++ reference :: after).length == (before' ++ target :: after').length) =
        ((before ++ after).length == (before' ++ after').length) := by
    rw [Bool.eq_iff_iff]
    simp only [List.length_append, List.length_cons, beq_iff_eq]
    omega
  simp only [parametersAgree, hlength, List.zip_append same, List.zip_cons_cons, List.all_append,
    List.all_cons, agree, Bool.true_and]

/-- What is left over of two lists of contracts. -/
theorem mem_contractDifference
    {scope : Scope} {first second : List String} {difference : ContractDifference}
    (h : scope.contractDifference? first second = some difference) (name : String) :
    (name ∈ difference.referenceOnly ↔
        name ∈ (greedyPairing scope.namesAgree first second).leftOnly) ∧
      (name ∈ difference.targetOnly ↔
        name ∈ (greedyPairing scope.namesAgree first second).rightOnly) := by
  simp only [contractDifference?, Option.ite_none_left_eq_some, Option.some.injEq] at h
  obtain ⟨_, rfl⟩ := h
  simp [sortNames, List.mem_mergeSort]

/-- Only declared types that are not the same are reported. -/
theorem namesAgree_of_mem_mismatches
    {scope : Scope} {first second : TypeDecl} {mismatch : ValueTypeMismatch}
    (h : mismatch ∈ (scope.memberDifference first second).mismatches) :
    scope.namesAgree mismatch.referenceType mismatch.targetType = false := by
  rw [memberDifference, ValueTypeMismatch.sort, List.mem_mergeSort, List.mem_flatMap] at h
  obtain ⟨pairing, _, hpair⟩ := h
  obtain ⟨pair, _, hmismatch⟩ := List.mem_filterMap.mp hpair
  unfold typeMismatch? at hmismatch
  split at hmismatch
  · rw [Option.ite_none_left_eq_some] at hmismatch
    obtain ⟨hdiffer, hentry⟩ := hmismatch
    obtain rfl := Option.some.inj hentry
    simpa using hdiffer
  · simp at hmismatch

theorem unites_of_namesAgree
    {scope : Scope} {reference target : String}
    (agree : scope.namesAgree reference target = true) :
    scope.Unites reference target where
  names := agree
  baseType first second hfirst hsecond := by
    simp [baseTypeDifference?, hfirst, hsecond, baseTypesAgree, agree]
  declaredType first second mismatch hmismatch := by
    rintro ⟨rfl, rfl⟩
    rw [namesAgree_of_mem_mismatches hmismatch] at agree
    exact Bool.noConfusion agree
  parameter _ _ _ _ same :=
    parametersAgree_insert agree same
  member _ _ _ _ hleft _ hright :=
    GreedyPairing.not_meets_of_mem_leftOnly hleft hright
  contract first second difference hdifference := by
    rw [(mem_contractDifference hdifference _).1, (mem_contractDifference hdifference _).2]
    have hnever :
        ¬ (reference ∈ (greedyPairing scope.namesAgree first second).leftOnly ∧
          target ∈ (greedyPairing scope.namesAgree first second).rightOnly) := by
      rintro ⟨hreference, htarget⟩
      have hdiffer := GreedyPairing.not_meets_of_mem_leftOnly hreference htarget
      rw [agree] at hdiffer
      exact Bool.noConfusion hdiffer
    constructor
    · intro hreference hlisted
      have htaken := fun htarget => hnever ⟨hreference, htarget⟩
      exact ⟨htaken, GreedyPairing.exists_mem_pairs_of_mem_right hlisted htaken⟩
    · intro htarget hlisted
      have htaken := fun hreference => hnever ⟨hreference, htarget⟩
      exact ⟨htaken, GreedyPairing.exists_mem_pairs_of_mem_left hlisted htaken⟩
  rival first second difference hdifference := by
    have hmaximal := GreedyPairing.isMaximal_greedyPairing scope.namesAgree first second
    rw [(mem_contractDifference hdifference _).1, (mem_contractDifference hdifference _).2]
    exact ⟨hmaximal.exists_rival_left agree, hmaximal.exists_rival_right agree⟩

section NestedContract

/-- Two interfaces of one innermost name and a class that implements both.  The counterpart of the
nested interface has a name of its own. -/
def nestedContract : Scope :=
  { settings := {}
    reference :=
      [.named .reference .interfaceType "a.Foo",
        .named .reference .interfaceType "a.Outer$Foo",
        { TypeDecl.named .reference .classType "a.Widget" with
            contracts := ["a.Outer$Foo", "a.Foo"] }]
    target :=
      [.named .target .interfaceType "A.IFoo",
        { TypeDecl.named .target .interfaceType "A.OuterFoo" with
            declaredEquivalent := some ⟨"a", "Outer.Foo"⟩ },
        { TypeDecl.named .target .classType "A.Widget" with
            contracts := ["A.IFoo", "A.OuterFoo"] }] }

theorem distinctNames_nestedContract :
    nestedContract.DistinctNames :=
  ⟨by decide +kernel, by decide +kernel⟩

theorem matching_nestedContract :
    nestedContract.matching =
      { matched :=
          [⟨.named .reference .interfaceType "a.Outer$Foo",
              { TypeDecl.named .target .interfaceType "A.OuterFoo" with
                  declaredEquivalent := some ⟨"a", "Outer.Foo"⟩ },
              .declaredEquivalent⟩,
            ⟨.named .reference .interfaceType "a.Foo", .named .target .interfaceType "A.IFoo",
              .heuristic .exactName⟩,
            ⟨{ TypeDecl.named .reference .classType "a.Widget" with
                  contracts := ["a.Outer$Foo", "a.Foo"] },
              { TypeDecl.named .target .classType "A.Widget" with
                  contracts := ["A.IFoo", "A.OuterFoo"] },
              .heuristic .exactName⟩]
        unmatchedReference := []
        unmatchedTarget := []
        warnings := [] } := by
  rw [matching, settled, overridden,
    Pool.ofTypes_of_ordered (by decide +kernel) (by decide +kernel)]
  decide +kernel

theorem plain_nestedContract :
    ∀ pairing ∈ nestedContract.matching.matched, nestedContract.Plain pairing := by
  rw [matching_nestedContract]
  decide +kernel

end NestedContract

/-- With distinct full names and no refused override, the names of a matched pair are the same
wherever they are written in the same place. -/
theorem matched_names_never_differ
    {scope : Scope} (distinct : scope.DistinctNames)
    (accepted : scope.matching.warnings = [])
    {pairing : Pairing} (hpairing : pairing ∈ scope.matching.matched)
    (plain : scope.Plain pairing) :
    scope.Unites pairing.reference.fullName pairing.target.fullName :=
  unites_of_namesAgree (namesAgree_of_mem_matched distinct accepted hpairing plain)

theorem matched_names_never_differ_outer_foo :
    nestedContract.Unites "a.Outer$Foo" "A.OuterFoo" := by
  have hmem :
      (⟨.named .reference .interfaceType "a.Outer$Foo",
          { TypeDecl.named .target .interfaceType "A.OuterFoo" with
              declaredEquivalent := some ⟨"a", "Outer.Foo"⟩ },
          .declaredEquivalent⟩ : Pairing) ∈ nestedContract.matching.matched := by
    rw [matching_nestedContract]
    exact List.mem_cons_self ..
  have haccepted : nestedContract.matching.warnings = [] := by
    rw [matching_nestedContract]
  exact matched_names_never_differ distinctNames_nestedContract haccepted hmem
    (plain_nestedContract _ hmem)

/-- The contracts of a class and its counterpart name the same matched pairs, and yet one is left
over on either side: the nested interface took the counterpart of the other one. -/
theorem matched_contract_left_over :
    nestedContract.DistinctNames ∧
      nestedContract.matching.warnings = [] ∧
      (∀ pairing ∈ nestedContract.matching.matched, nestedContract.Plain pairing) ∧
      nestedContract.matching.matched.map Pairing.names =
        [("a.Outer$Foo", "A.OuterFoo"), ("a.Foo", "A.IFoo"), ("a.Widget", "A.Widget")] ∧
      ∃ pairing ∈ nestedContract.matching.matched,
        pairing.reference.contracts = ["a.Outer$Foo", "a.Foo"] ∧
          pairing.target.contracts = ["A.IFoo", "A.OuterFoo"] ∧
          nestedContract.contractDifference? pairing.reference.contracts
              pairing.target.contracts =
            some ⟨["a.Foo"], ["A.OuterFoo"]⟩ := by
  have hpairing :
      greedyPairing nestedContract.namesAgree ["a.Outer$Foo", "a.Foo"] ["A.IFoo", "A.OuterFoo"] =
        ⟨[("a.Outer$Foo", "A.IFoo")], ["a.Foo"], ["A.OuterFoo"]⟩ := by
    decide +kernel
  have hdifference :
      nestedContract.contractDifference? ["a.Outer$Foo", "a.Foo"] ["A.IFoo", "A.OuterFoo"] =
        some ⟨["a.Foo"], ["A.OuterFoo"]⟩ := by
    simp [contractDifference?, hpairing, sortNames]
  refine ⟨distinctNames_nestedContract, ?_, plain_nestedContract, ?_, ?_⟩
  · rw [matching_nestedContract]
  · rw [matching_nestedContract]
    rfl
  · rw [matching_nestedContract]
    exact ⟨_, List.mem_cons_of_mem _ (List.mem_cons_of_mem _ (List.mem_cons_self ..)), rfl, rfl,
      hdifference⟩

end Scope
end Counterpart
