import Counterpart.Kind
import Counterpart.Text.Pieces

/-!
# Members

A declared member of a type.  What depends on the kind of the member (declared type,
accessors, parameters) is held by its shape, so a member has exactly the parts of its kind.
-/

namespace Counterpart

/-- The part of a member that depends on its kind. -/
inductive Member.Shape
  | field (declaredType : String)
  | property (declaredType : String) (hasGetter hasSetter : Bool)
  | method (parameters : List String) (returnType : String)
  | constructor (parameters : List String)
  deriving DecidableEq

namespace Member.Shape

def kind : Member.Shape → Member.Kind
  | field _ => .field
  | property _ _ _ => .property
  | method _ _ => .method
  | constructor _ => .constructor

/-- The declared type of a field or property, the return type of a method. -/
def resultType? : Member.Shape → Option String
  | field declaredType => some declaredType
  | property declaredType _ _ => some declaredType
  | method _ returnType => some returnType
  | constructor _ => none

/-- The parameter types of a method or constructor. -/
def parameters : Member.Shape → List String
  | field _ => []
  | property _ _ _ => []
  | method parameters _ => parameters
  | constructor parameters => parameters

def takesParameters : Member.Shape → Bool
  | field _ => false
  | property _ _ _ => false
  | method _ _ => true
  | constructor _ => true

end Member.Shape

/-- A declared member. -/
structure Member where
  name : String
  /-- Modifier tokens in the vocabulary of the member's side. -/
  modifiers : List String := []
  isStatic : Bool := false
  shape : Member.Shape
  /-- Why differing modifiers are accepted, if they are. -/
  acknowledgedModifiers : Option String := none
  deriving DecidableEq

namespace Member

def field (name declaredType : String) : Member :=
  { name, shape := .field declaredType }

/-- A property without modifiers, to be read only. -/
def property (name declaredType : String) : Member :=
  { name, shape := .property declaredType true false }

def method (name : String) (parameters : List String) (returnType : String) : Member :=
  { name, shape := .method parameters returnType }

def constructor (name : String) (parameters : List String) : Member :=
  { name, shape := .constructor parameters }

def kind (member : Member) : Member.Kind :=
  member.shape.kind

/-- The declared type of a field or property, the return type of a method. -/
def resultType? (member : Member) : Option String :=
  member.shape.resultType?

/-- The parameter types of a method or constructor. -/
def parameters (member : Member) : List String :=
  member.shape.parameters

/-- The name, with the parameter types of a method or constructor. -/
def signature (member : Member) : String :=
  if member.shape.takesParameters then
    member.name ++ "(" ++ Text.join ", " member.parameters ++ ")"
  else member.name

end Member

end Counterpart
