import Counterpart.Declaration.Member
import Counterpart.Naming.Display

/-!
# Declared types

A type as one side declares it.  Its full name consists of a package, up to the last dot in
front of the first nesting separator, and the path below it.
-/

namespace Counterpart

/-- The reference package and dotted name that a target type declares to stand for. -/
structure EquivalentName where
  package : String
  name : String
  deriving DecidableEq

/-- The differences of a target type that are accepted, each with its justification. -/
structure Acknowledged where
  modifiers : Option String := none
  baseType : Option String := none
  contracts : Option String := none
  deriving DecidableEq

def Acknowledged.isEmpty (known : Acknowledged) : Bool :=
  known.modifiers.isNone && known.baseType.isNone && known.contracts.isNone

/-- A declared type. -/
structure TypeDecl where
  kind : TypeDecl.Kind
  package : String
  simpleName : String
  /-- The qualified name, with the side's separator between nesting levels. -/
  fullName : String
  modifiers : List String := []
  baseType : Option String := none
  contracts : List String := []
  fields : List Member := []
  properties : List Member := []
  methods : List Member := []
  constructors : List Member := []
  /-- The reference type that a target type declares to stand for. -/
  declaredEquivalent : Option EquivalentName := none
  acknowledged : Acknowledged := {}
  /-- The type is meant to have no reference counterpart. -/
  withoutReference : Bool := false
  deriving DecidableEq

/-- The package of a full name: all before the last dot that precedes any separator. -/
def packagePart (fullName : String) (side : Side) : String :=
  Text.beforeLast '.' (Text.before side.separator fullName)

/-- The innermost name of a full name: all after the last dot or separator. -/
def lastName (fullName : String) (side : Side) : String :=
  Text.afterLast (fun c => c == '.' || c == side.separator) fullName

namespace TypeDecl

/-- A public type without members, known by its full name. -/
def named
    (side : Side) (kind : TypeDecl.Kind) (fullName : String) :
    TypeDecl :=
  { kind
    package := packagePart fullName side
    simpleName := lastName fullName side
    fullName
    modifiers := ["public"] }

/-- The sequence of members declared under a kind. -/
def group (decl : TypeDecl) : Member.Kind → List Member
  | .field => decl.fields
  | .property => decl.properties
  | .method => decl.methods
  | .constructor => decl.constructors

def members (decl : TypeDecl) : List Member :=
  Member.Kind.all.flatMap decl.group

/-- The type with one more member at the end of the sequence of its kind. -/
def addMember (decl : TypeDecl) (member : Member) : TypeDecl :=
  match member.kind with
  | .field => { decl with fields := decl.fields ++ [member] }
  | .property => { decl with properties := decl.properties ++ [member] }
  | .method => { decl with methods := decl.methods ++ [member] }
  | .constructor => { decl with constructors := decl.constructors ++ [member] }

def isPublic (decl : TypeDecl) : Bool :=
  decl.modifiers.contains "public"

/-- The name below the package; the simple name if the full name does not start with the
package and a dot. -/
def localName (decl : TypeDecl) : String :=
  if decl.package = "" then decl.fullName
  else (Text.afterStart? (decl.package ++ ".") decl.fullName).getD decl.simpleName

def readableName (decl : TypeDecl) (side : Side) : String :=
  Naming.readableName decl.fullName side

@[simp] theorem fullName_named
    (side : Side) (kind : TypeDecl.Kind) (fullName : String) :
    (named side kind fullName).fullName = fullName :=
  rfl

@[simp] theorem kind_named
    (side : Side) (kind : TypeDecl.Kind) (fullName : String) :
    (named side kind fullName).kind = kind :=
  rfl

@[simp] theorem package_named
    (side : Side) (kind : TypeDecl.Kind) (fullName : String) :
    (named side kind fullName).package = packagePart fullName side :=
  rfl

@[simp] theorem isPublic_named
    (side : Side) (kind : TypeDecl.Kind) (fullName : String) :
    (named side kind fullName).isPublic = true := by
  simp [named, isPublic]

theorem members_eq (decl : TypeDecl) :
    decl.members =
      decl.fields ++ decl.properties ++ decl.methods ++ decl.constructors := by
  simp [members, Member.Kind.all, group]

end TypeDecl

/-- The declared types of one library on one side. -/
structure Surface where
  library : String
  version : Option String := none
  types : List TypeDecl := []
  deriving DecidableEq

end Counterpart
