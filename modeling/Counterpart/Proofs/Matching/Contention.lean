import Counterpart.Proofs.Matching.Ambiguity
import Counterpart.Proofs.Matching.Justification

/-!
# Contention for a target type

The naming rules make up one step, in which the reference types have their turns in the order of
their full names.  Two reference types may meet the same target type, one as it is and the other
by flattening, and then the name that comes first takes it.  So a type can lose its exact match,
but never to one whose full name comes after its own.

* `takenBefore_of_plain`: what a left-over type accepts was taken before its turn.
* `precedes_of_follows`: a target of the naming rules is lost to a type that comes before only.
-/

namespace Counterpart
namespace Scope

/-- A reference type is left over without candidates although a target type meets it as it is,
while the target type is paired with a type that it meets by flattening. -/
structure LosesExactMatch (scope : Scope) (left : Unmatched) (pairing : Pairing) : Prop where
  leftOver : left ∈ scope.matching.unmatchedReference
  plain : left.candidates = []
  paired : pairing ∈ scope.matching.matched
  flattened : ∃ rule, pairing.reason = .heuristic rule ∧ rule.flattens = true
  exact : ∃ rule, rule.flattens = false ∧ scope.follows rule left.decl pairing.target = true

/-- A target type that meets a reference type under a rule is accepted in the step of naming
rules, unless it has a declared equivalent. -/
theorem accepts_names_of_follows
    {scope : Scope} {reference target : TypeDecl} {rule : Rule}
    (free : target.declaredEquivalent = none)
    (h : scope.follows rule reference target = true) :
    scope.accepts .names reference target = true := by
  simp only [accepts, free, Option.isNone_none, Bool.true_and, List.any_eq_true]
  exact ⟨rule, Rule.mem_all rule, h⟩

section Distinct

variable {scope : Scope} (distinct : scope.DistinctNames)
include distinct

/-- No target was open, in either step, to a type that is left over without candidates. -/
theorem not_open_of_plain
    {entry : Pending}
    (h : entry ∈ scope.settled.pending)
    (plain : entry.candidates = [])
    (step : Step) (target : TypeDecl) :
    ¬ scope.Open step entry.decl target := by
  obtain ⟨decisive, decided⟩ := exists_decided distinct h
  have hnone (target : TypeDecl) : ¬ scope.Open decisive entry.decl target := by
    intro htarget
    have hmem := (decided.mem_iff target).mpr htarget
    rw [plain] at hmem
    exact absurd hmem List.not_mem_nil
  have hclosed (other : Step) (hturn : scope.HasTurn other entry.decl) (target : TypeDecl) :
      ¬ scope.Open other entry.decl target := by
    intro htarget
    obtain rfl := decided.only other target hturn htarget
    exact hnone target htarget
  cases step with
  | equivalents =>
      exact hclosed .equivalents trivial target
  | names =>
      exact hclosed .names (hclosed .equivalents trivial) target

/-- Every target type that a type left over without candidates accepts in a step was taken before
its turn there. -/
theorem takenBefore_of_plain
    {left : Unmatched} {step : Step} {target : TypeDecl}
    (h : left ∈ scope.matching.unmatchedReference)
    (plain : left.candidates = [])
    (listed : target ∈ scope.target)
    (accepted : scope.accepts step left.decl target = true) :
    scope.matching.TakenBefore step left.decl target := by
  obtain ⟨entry, hentry, rfl⟩ := List.mem_map.mp h
  by_contra huntaken
  exact not_open_of_plain distinct hentry (List.map_eq_nil_iff.mp plain) step target
    ⟨listed, accepted, huntaken⟩

/-- A type that is left over without candidates loses a target of the naming rules only to a type
that comes before. -/
theorem precedes_of_follows
    {left : Unmatched} {pairing : Pairing} {given met : Rule}
    (hleft : left ∈ scope.matching.unmatchedReference)
    (plain : left.candidates = [])
    (hpairing : pairing ∈ scope.matching.matched)
    (hreason : pairing.reason = .heuristic given)
    (hmet : scope.follows met left.decl pairing.target = true) :
    pairing.reference.Precedes left.decl := by
  have hreached := scope.reached_settled
  have hlisted := (hreached.mem_of_mem_pairs hpairing).2
  have haccepts := accepts_names_of_follows (follows_of_heuristic hpairing hreason).1 hmet
  obtain ⟨owner, howner, same, hmoment⟩ :=
    takenBefore_of_plain distinct hleft plain hlisted haccepts
  obtain rfl := hreached.eq_of_target_eq distinct howner hpairing same
  rcases hmoment with hrank | ⟨_, hprecedes⟩
  · rw [hreason] at hrank
    exact absurd hrank (lt_irrefl Step.names.rank)
  · exact hprecedes

end Distinct

section Contention

/-- A scope in which `a.Box$Item` has its turn first and takes, by flattening, the only target
type, which `a.Item` meets as it is. -/
def contention : Scope :=
  { settings := {}
    reference := ["a.Box$Item", "a.Item"].map (.named .reference .classType)
    target := ["A.Item"].map (.named .target .classType) }

theorem settled_contention :
    contention.settled =
      { pending := [⟨.named .reference .classType "a.Item", []⟩]
        free := []
        pairs :=
          [⟨.named .reference .classType "a.Box$Item", .named .target .classType "A.Item",
            .heuristic .flattenedNesting⟩] } := by
  rw [settled, overridden, Pool.ofTypes_of_ordered (by decide +kernel) (by decide +kernel)]
  decide +kernel

theorem distinctNames_contention :
    contention.DistinctNames :=
  ⟨by decide +kernel, by decide +kernel⟩

theorem losesExactMatch_contention :
    contention.LosesExactMatch
      ⟨.named .reference .classType "a.Item", []⟩
      ⟨.named .reference .classType "a.Box$Item", .named .target .classType "A.Item",
        .heuristic .flattenedNesting⟩ where
  leftOver := by
    rw [matching, settled_contention]
    decide +kernel
  plain := rfl
  paired := by
    rw [matching, settled_contention]
    decide +kernel
  flattened := ⟨.flattenedNesting, rfl, rfl⟩
  exact := ⟨.exactName, rfl, by decide +kernel⟩

end Contention

end Scope

/-- A type loses its exact match to a flattened one only if the full name of the flattened one
comes first. -/
theorem exact_match_lost_in_order
    {scope : Scope} {left : Unmatched} {pairing : Pairing}
    (distinct : scope.DistinctNames)
    (h : scope.LosesExactMatch left pairing) :
    pairing.reference.Precedes left.decl := by
  obtain ⟨given, hreason, _⟩ := h.flattened
  obtain ⟨met, _, hmet⟩ := h.exact
  exact Scope.precedes_of_follows distinct h.leftOver h.plain h.paired hreason hmet

theorem exact_match_lost_in_order_box_item :
    (TypeDecl.named .reference .classType "a.Box$Item").Precedes
      (.named .reference .classType "a.Item") :=
  exact_match_lost_in_order Scope.distinctNames_contention Scope.losesExactMatch_contention

/-- Exact matches are not kept whatever the order of the full names. -/
theorem exact_match_not_always_kept :
    ¬ ∀ (scope : Scope) (left : Unmatched) (pairing : Pairing),
      scope.DistinctNames → left.decl ≠ pairing.reference →
        ¬ scope.LosesExactMatch left pairing := by
  intro kept
  exact kept Scope.contention _ _ Scope.distinctNames_contention (by decide +kernel)
    Scope.losesExactMatch_contention

end Counterpart
