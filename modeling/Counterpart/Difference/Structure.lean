import Counterpart.Difference.Member

/-!
# Differences of paired types

What differs between a reference type and its counterpart: modifiers, base type, contracts
and members, less what the target type acknowledges.  A paired type that is not public is an
error, since only public types are compared.
-/

namespace Counterpart

/-- Modifiers of two types that do not mean the same, in the order of display. -/
structure ModifierDifference where
  reference : List String
  target : List String
  deriving DecidableEq

/-- Base types that do not correspond. -/
structure BaseTypeDifference where
  reference : Option String
  target : Option String
  deriving DecidableEq

/-- Contracts implemented on one side only. -/
structure ContractDifference where
  referenceOnly : List String
  targetOnly : List String
  deriving DecidableEq

/-- The differences between two paired types. -/
structure TypeDifference where
  modifiers : Option ModifierDifference := none
  baseType : Option BaseTypeDifference := none
  contracts : Option ContractDifference := none
  members : MemberDifference := {}
  deriving DecidableEq

def TypeDifference.isClean (difference : TypeDifference) : Bool :=
  difference.modifiers.isNone && difference.baseType.isNone &&
    difference.contracts.isNone && difference.members.isEmpty

/-- A paired type that is not public. -/
structure NotPublic where
  side : Side
  fullName : String
  deriving DecidableEq

/-- The text of the error about a paired type that is not public. -/
def NotPublic.message (error : NotPublic) : String :=
  s!"invariant violation: {error.side.label} type '{error.fullName}' is missing the public modifier"

/-- The class at the root of every reference hierarchy. -/
def referenceRoot : String := "java.lang.Object"

def sortNames (names : List String) : List String :=
  names.mergeSort (fun a b => (compare a b).isLE)

namespace Scope

/-- Whether two base types correspond; the target side leaves out the implicit root. -/
def baseTypesAgree (scope : Scope) : (reference target : Option String) → Bool
  | none, none => true
  | some reference, none => reference == referenceRoot
  | some reference, some target => scope.namesAgree reference target
  | none, some _ => false

/-- The contracts that are implemented on one side only, if there are any. -/
def contractDifference?
    (scope : Scope) (reference target : List String) :
    Option ContractDifference :=
  let pairing := greedyPairing scope.namesAgree reference target
  if pairing.leftOnly.isEmpty && pairing.rightOnly.isEmpty then none
  else some ⟨sortNames pairing.leftOnly, sortNames pairing.rightOnly⟩

/-- The difference of the base types, unless it is acknowledged. -/
def baseTypeDifference? (scope : Scope) (reference target : TypeDecl) : Option BaseTypeDifference :=
  if target.acknowledged.baseType.isSome ||
      scope.baseTypesAgree reference.baseType target.baseType then none
  else some ⟨reference.baseType, target.baseType⟩

/-- The difference of the modifiers, unless it is acknowledged. -/
def modifierDifference?
    (reference target : TypeDecl) :
    Except NotPublic (Option ModifierDifference) :=
  match Modifier.agreeOnTypes reference.modifiers target.modifiers with
  | .error .reference => .error ⟨.reference, reference.fullName⟩
  | .error .target => .error ⟨.target, target.fullName⟩
  | .ok same =>
    if same || target.acknowledged.modifiers.isSome then .ok none
    else
      .ok (some
        ⟨Modifier.sorted .reference reference.modifiers,
          Modifier.sorted .target target.modifiers⟩)

/-- The differences between two paired types. -/
def difference (scope : Scope) (reference target : TypeDecl) : Except NotPublic TypeDifference :=
  (modifierDifference? reference target).map fun modifiers =>
    { modifiers
      baseType := scope.baseTypeDifference? reference target
      contracts :=
        if target.acknowledged.contracts.isSome then none
        else scope.contractDifference? reference.contracts target.contracts
      members := scope.memberDifference reference target }

end Scope
end Counterpart
