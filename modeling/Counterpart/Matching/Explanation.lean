import Counterpart.Matching.Types

/-!
# Explanations

How one reference type was resolved: what an override, the declared equivalents and each
naming rule have to say about it, and what became of it in the matching of all types.
-/

namespace Counterpart

/-- What became of a reference type. -/
inductive Outcome
  | matched (target : String) (reason : Reason)
  | ambiguous (candidates : List String)
  | unmatched
  deriving DecidableEq

/-- What one naming rule says about a reference type. -/
structure RuleAccount where
  rule : Rule
  /-- The target name the rule expects, if it applies to the type. -/
  expectedName : Option String
  /-- The full names of all targets the rule accepts. -/
  candidates : List String
  deriving DecidableEq

/-- How a reference type was resolved. -/
structure Explanation where
  reference : String
  kind : TypeDecl.Kind
  targetNamespace : String
  /-- The target that the first override of the type names. -/
  overrideTarget : Option String
  /-- The full names of the targets that declare the type as their equivalent. -/
  declaredEquivalents : List String
  rules : List RuleAccount
  outcome : Outcome
  deriving DecidableEq

/-- What became of the reference type of a full name. -/
def Matching.outcome (matching : Matching) (fullName : String) : Outcome :=
  match matching.matched.find? (fun pair => pair.reference.fullName == fullName) with
  | some pair => .matched pair.target.fullName pair.reason
  | none =>
    match matching.unmatchedReference.find?
        (fun entry => entry.decl.fullName == fullName && entry.isAmbiguous) with
    | some entry => .ambiguous entry.candidates
    | none => .unmatched

namespace Scope

/-- The target types that pass a test, in the order of their full names. -/
def targetsWhere (scope : Scope) (test : TypeDecl → Bool) : List String :=
  ((Pool.ofTypes.sortByName scope.target).filter test).map TypeDecl.fullName

/-- What one naming rule says about a reference type. -/
def account (scope : Scope) (reference : TypeDecl) (rule : Rule) : RuleAccount :=
  { rule
    expectedName := scope.expectedName? reference rule
    candidates := scope.targetsWhere fun target =>
      target.declaredEquivalent.isNone && scope.follows rule reference target }

/-- How the reference type of a full name was resolved, if there is one. -/
def explain? (scope : Scope) (fullName : String) : Option Explanation :=
  (scope.reference? fullName).map fun reference =>
    { reference := reference.fullName
      kind := reference.kind
      targetNamespace := scope.targetNamespace reference.package
      overrideTarget := (scope.override? fullName).map Override.target
      declaredEquivalents := scope.targetsWhere (declares reference)
      rules := Rule.all.map (scope.account reference)
      outcome := scope.matching.outcome fullName }

end Scope
end Counterpart
