import Counterpart.Proofs.Correspondence.Written
import Counterpart.Proofs.Matching.Evidence
import Mathlib.Data.List.Perm.Subperm

/-!
# The order of the naming rules

Two types are related by one naming rule at most.  So the rule that is found for them does not
depend on the order in which the rules are tried, the rule recorded with a pair is the only one that
relates it, and an explanation lists a target under one rule only.

* `find?_eq_some_iff_of_exclusive`: an element that alone can pass a test is found wherever it is.
* `flatMap_filter_subperm`: tests that exclude each other select no element twice.
* `naming_rules_exclusive`: what does not depend on the order of the naming rules.
-/

namespace Counterpart

section Exclusive

variable {α β : Type}

/-- Where one element at most passes a test, it is found wherever it is listed. -/
theorem find?_eq_some_iff_of_exclusive
    {test : α → Bool} (exclusive : ∀ a b, test a = true → test b = true → a = b)
    {l : List α} {a : α} :
    l.find? test = some a ↔ a ∈ l ∧ test a = true := by
  constructor
  · intro h
    exact ⟨List.mem_of_find?_eq_some h, List.find?_some h⟩
  · rintro ⟨hmem, htest⟩
    obtain ⟨b, hb⟩ := Option.isSome_iff_exists.mp (List.find?_isSome.mpr ⟨a, hmem, htest⟩)
    rw [hb, exclusive b a (List.find?_some hb) htest]

/-- Tests that exclude each other select no element of a list twice. -/
theorem flatMap_filter_subperm
    {test : β → α → Bool}
    (exclusive : ∀ a first second, test first a = true → test second a = true → first = second)
    {tests : List β} (distinct : tests.Nodup) (l : List α) :
    (tests.flatMap fun first => l.filter (test first)).Subperm l := by
  induction tests generalizing l with
  | nil =>
      exact List.nil_subperm
  | cons first rest ih =>
      obtain ⟨hfirst, hrest⟩ := List.nodup_cons.mp distinct
      -- What the first test selects is left over by all others.
      have hothers :
          (rest.flatMap fun second => l.filter (test second)) =
            rest.flatMap fun second => (l.filter fun a => !test first a).filter (test second) := by
        apply List.flatMap_congr
        intro second hsecond
        rw [List.filter_filter]
        apply List.filter_congr
        intro a _
        cases htest : test second a with
        | false =>
            rfl
        | true =>
            have hfree : test first a = false := by
              by_contra hboth
              have hsame := exclusive a first second (by simpa using hboth) htest
              exact hfirst (hsame ▸ hsecond)
            simp [hfree]
      rw [List.flatMap_cons, hothers]
      have hsplit := List.filter_append_perm (test first) l
      exact ((List.subperm_append_left _).mpr (ih hrest _)).trans hsplit.subperm

end Exclusive

namespace Scope

theorem rule?_eq_some_iff
    {scope : Scope} {reference target : TypeDecl} {rule : Rule} :
    scope.rule? reference target = some rule ↔ scope.follows rule reference target = true := by
  rw [rule?, find?_eq_some_iff_of_exclusive fun _ _ => eq_of_follows]
  exact and_iff_right (Rule.mem_all rule)

/-- No target type is listed twice under the rules of an explanation. -/
theorem candidates_subperm
    {scope : Scope} {name : String} {explanation : Explanation}
    (h : scope.explain? name = some explanation) :
    (explanation.rules.flatMap RuleAccount.candidates).Subperm
      (scope.target.map TypeDecl.fullName) := by
  obtain ⟨decl, _, rfl⟩ := Option.map_eq_some_iff.mp h
  have hcandidates :
      ((Rule.all.map (scope.account decl)).flatMap RuleAccount.candidates) =
        (Rule.all.flatMap fun rule =>
          (Pool.ofTypes.sortByName scope.target).filter fun target =>
            target.declaredEquivalent.isNone && scope.follows rule decl target).map
          TypeDecl.fullName := by
    simp only [List.flatMap_map, List.map_flatMap, account, targetsWhere]
  have hselected :
      (Rule.all.flatMap fun rule =>
        (Pool.ofTypes.sortByName scope.target).filter fun target =>
          target.declaredEquivalent.isNone && scope.follows rule decl target).Subperm
        (Pool.ofTypes.sortByName scope.target) := by
    apply flatMap_filter_subperm
    · intro target first second hfirst hsecond
      rw [Bool.and_eq_true] at hfirst hsecond
      exact eq_of_follows hfirst.2 hsecond.2
    · decide
  -- Names may repeat, so the lists of types are related before their names are.
  obtain ⟨selected, hperm, hsublist⟩ :=
    hselected.trans (Pool.sortByName_perm scope.target).subperm
  rw [hcandidates]
  exact ⟨selected.map TypeDecl.fullName, hperm.map _, hsublist.map _⟩

/-- What does not depend on the order of the naming rules. -/
structure RulesExclusive (scope : Scope) : Prop where
  one_rule :
    ∀ reference target first second,
      scope.follows first reference target = true → scope.follows second reference target = true →
        first = second
  any_order :
    ∀ reference target (order : List Rule), (∀ rule, rule ∈ order) →
      order.find? (fun rule => scope.follows rule reference target) =
        scope.rule? reference target
  /-- The rule recorded with a pair is the only one that relates it. -/
  recorded :
    ∀ pairing ∈ scope.matching.matched, ∀ rule, pairing.reason = .heuristic rule →
      ∀ other, scope.follows other pairing.reference pairing.target = true ↔ other = rule
  /-- No target type is listed twice under the rules of an explanation. -/
  listed :
    ∀ name explanation, scope.explain? name = some explanation →
      (explanation.rules.flatMap RuleAccount.candidates).Subperm
        (scope.target.map TypeDecl.fullName)
  /-- If the target types have distinct names, no name is listed under two rules. -/
  named :
    ∀ name explanation, scope.explain? name = some explanation →
      (scope.target.map TypeDecl.fullName).Nodup →
        ∀ first second target, explanation.Names first target → explanation.Names second target →
          first = second

end Scope

/-- Two types are related by one naming rule at most, so nothing depends on the order of the
rules. -/
theorem naming_rules_exclusive
    (scope : Scope) :
    scope.RulesExclusive := by
  constructor
  case one_rule =>
    intro reference target first second hfirst hsecond
    exact Scope.eq_of_follows hfirst hsecond
  case any_order =>
    intro reference target order complete
    apply Option.ext
    intro rule
    rw [find?_eq_some_iff_of_exclusive fun _ _ => Scope.eq_of_follows, Scope.rule?_eq_some_iff]
    exact and_iff_right (complete rule)
  case recorded =>
    intro pairing paired rule reason other
    have hfollows := (Scope.follows_of_heuristic paired reason).2
    constructor
    · intro hother
      exact Scope.eq_of_follows hother hfollows
    · rintro rfl
      exact hfollows
  case listed =>
    intro name explanation h
    exact Scope.candidates_subperm h
  case named =>
    intro name explanation h distinct first second target hfirst hsecond
    obtain ⟨decl, _, rfl⟩ := Option.map_eq_some_iff.mp h
    obtain ⟨found, hfound, ⟨_, hfollows⟩, rfl⟩ := (Scope.names_iff_of_rules_eq rfl).mp hfirst
    obtain ⟨other, hother, ⟨_, hothers⟩, hname⟩ := (Scope.names_iff_of_rules_eq rfl).mp hsecond
    obtain rfl := List.inj_on_of_nodup_map distinct hother hfound hname
    exact Scope.eq_of_follows hfollows hothers

section Namesakes

/-- Four reference types that are all met by `A.Item`, each under another rule. -/
def namesakes : List (Rule × String) :=
  [(.exactName, "a.Item"), (.implementationSuffix, "a.ItemImpl"),
    (.flattenedNesting, "a.Box$Item"), (.flattenedImplementationSuffix, "a.Box$ItemImpl")]

theorem naming_rules_exclusive_item :
    Scope.unpopulated.RulesExclusive ∧
      namesakes.map Prod.fst = Rule.all ∧
      ∀ entry ∈ namesakes, ∀ other,
        Scope.unpopulated.follows other (.named .reference .classType entry.2)
            (.named .target .classType "A.Item") = true ↔
          other = entry.1 := by
  have hexclusive := naming_rules_exclusive Scope.unpopulated
  have hfollows :
      ∀ entry ∈ namesakes,
        Scope.unpopulated.follows entry.1 (.named .reference .classType entry.2)
          (.named .target .classType "A.Item") = true := by
    decide +kernel
  refine ⟨hexclusive, by decide, ?_⟩
  intro entry hentry other
  constructor
  · intro hother
    exact hexclusive.one_rule _ _ _ _ hother (hfollows entry hentry)
  · rintro rfl
    exact hfollows entry hentry

end Namesakes

end Counterpart
