import Counterpart.Correspondence.Scope
import Counterpart.Difference.Greedy
import Counterpart.Modifier.Equivalence
import Counterpart.Modifier.Order

/-!
# Differences of members

Members are compared kind by kind.  Within a kind, reference members in declaration order
take the first target member that is the same declaration; what is left over, and the pairs
whose declared types do not correspond, make up the difference.
-/

namespace Counterpart

/-- A member as reports show it, in the vocabulary of its side. -/
structure MemberEntry where
  kind : Member.Kind
  name : String
  signature : String
  /-- The modifiers in the order of display. -/
  modifiers : List String
  isStatic : Bool
  deriving DecidableEq

/-- A paired field or property whose declared types do not correspond. -/
structure ValueTypeMismatch where
  kind : Member.Kind
  referenceName : String
  targetName : String
  referenceType : String
  targetType : String
  deriving DecidableEq

/-- The differences between the members of two paired types. -/
structure MemberDifference where
  referenceOnly : List MemberEntry := []
  targetOnly : List MemberEntry := []
  mismatches : List ValueTypeMismatch := []
  deriving DecidableEq

def MemberDifference.isEmpty (difference : MemberDifference) : Bool :=
  difference.referenceOnly.isEmpty && difference.targetOnly.isEmpty &&
    difference.mismatches.isEmpty

/-- Whether a member belongs to its type: by its flag, its modifiers, or on the reference
side the affix of its name. -/
def Member.belongsToType (member : Member) (side : Side) : Bool :=
  member.isStatic || member.modifiers.contains "static" ||
    (side == .reference && (Naming.bareName member.name).hasStaticAffix)

/-- The entry of a member in a report. -/
def Member.entry (side : Side) (member : Member) : MemberEntry :=
  { kind := member.kind
    name := member.name
    signature := member.signature
    modifiers := Modifier.sorted side member.modifiers
    isStatic := member.belongsToType side }

namespace MemberEntry

/-- The order of entries: kind, name, signature, modifiers, instance before static. -/
def order : MemberEntry → MemberEntry → Ordering :=
  compareLex (compareOn fun entry => entry.kind.rank) <|
  compareLex (compareOn name) <|
  compareLex (compareOn signature) <|
  compareLex (compareOn modifiers) (compareOn isStatic)

def sort (entries : List MemberEntry) : List MemberEntry :=
  entries.mergeSort (fun a b => (order a b).isLE)

end MemberEntry

namespace ValueTypeMismatch

/-- The order of mismatches: kind, both names, both types. -/
def order : ValueTypeMismatch → ValueTypeMismatch → Ordering :=
  compareLex (compareOn fun mismatch => mismatch.kind.rank) <|
  compareLex (compareOn referenceName) <|
  compareLex (compareOn targetName) <|
  compareLex (compareOn referenceType) (compareOn targetType)

def sort (mismatches : List ValueTypeMismatch) : List ValueTypeMismatch :=
  mismatches.mergeSort (fun a b => (order a b).isLE)

end ValueTypeMismatch

namespace Scope

/-- Whether two parameter lists have the same length and correspond one by one. -/
def parametersAgree (scope : Scope) (reference target : List String) : Bool :=
  reference.length == target.length &&
    (reference.zip target).all fun pair => scope.namesAgree pair.1 pair.2

/-- Whether two members are the same declaration.

Constructors go by the names of their types, so their own names are not compared. -/
def membersAgree (scope : Scope) (reference target : Member) : Bool :=
  reference.kind == target.kind &&
    (reference.kind == .constructor ||
      (Naming.bareName reference.name).canonical == target.name) &&
    reference.belongsToType .reference == target.belongsToType .target &&
    (target.acknowledgedModifiers.isSome ||
      Modifier.agreeOnMembers reference.modifiers target.modifiers) &&
    scope.parametersAgree reference.parameters target.parameters

/-- The mismatch of the declared types of two paired fields or properties, if any. -/
def typeMismatch? (scope : Scope) (reference target : Member) : Option ValueTypeMismatch :=
  match reference.kind.holdsValue, reference.resultType?, target.resultType? with
  | true, some referenceType, some targetType =>
    if scope.namesAgree referenceType targetType then none
    else
      some
        { kind := reference.kind
          referenceName := reference.name
          targetName := target.name
          referenceType
          targetType }
  | _, _, _ => none

/-- The pairing of the members declared under one kind. -/
def pairMembers
    (scope : Scope) (reference target : TypeDecl) (kind : Member.Kind) :
    GreedyPairing Member Member :=
  greedyPairing scope.membersAgree (reference.group kind) (target.group kind)

/-- The differences between the members of two types. -/
def memberDifference (scope : Scope) (reference target : TypeDecl) : MemberDifference :=
  let pairings := Member.Kind.all.map (scope.pairMembers reference target)
  { referenceOnly :=
      MemberEntry.sort
        (pairings.flatMap fun pairing => pairing.leftOnly.map (Member.entry .reference))
    targetOnly :=
      MemberEntry.sort
        (pairings.flatMap fun pairing => pairing.rightOnly.map (Member.entry .target))
    mismatches :=
      ValueTypeMismatch.sort
        (pairings.flatMap fun pairing =>
          pairing.pairs.filterMap fun pair => scope.typeMismatch? pair.1 pair.2) }

end Scope
end Counterpart
