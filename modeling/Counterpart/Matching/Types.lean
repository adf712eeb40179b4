import Counterpart.Matching.Pool

/-!
# Matching all types of a scope

Overrides come first, then declared equivalents, then the naming rules.  A step only sees
what earlier steps left, so a weaker reason never takes a type that a stronger one claims.
-/

namespace Counterpart
namespace Scope

/-- Why a target type is accepted in the step of declared equivalents. -/
def declaredReason (reference target : TypeDecl) : Option Reason :=
  if declares reference target then some .declaredEquivalent else none

/-- Why a target type is accepted in the step of naming rules; one with a declared equivalent
never is. -/
def namedReason (scope : Scope) (reference target : TypeDecl) : Option Reason :=
  if target.declaredEquivalent.isSome then none
  else (scope.rule? reference target).map .heuristic

/-- The pool of a scope after its overrides, with the warnings. -/
def overridden (scope : Scope) : Pool × List Warning :=
  (Pool.ofTypes scope.reference scope.target).overrideAll [] scope.settings.overrides

/-- The pool of a scope after all steps. -/
def settled (scope : Scope) : Pool :=
  (scope.overridden.1.advance declaredReason).advance scope.namedReason

/-- The types of a scope matched against each other. -/
def matching (scope : Scope) : Matching :=
  { matched := scope.settled.pairs
    unmatchedReference := scope.settled.unmatchedReference
    unmatchedTarget := scope.settled.unmatchedTarget
    warnings := scope.overridden.2 }

end Scope
end Counterpart
