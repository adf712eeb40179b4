/-!
# Sides and kinds

The two sides of a comparison, the kinds of declared types and of their members, and the
table of type kinds that may stand for each other across the sides.
-/

namespace Counterpart

/-- The side a declaration comes from. -/
inductive Side
  /-- The library whose surface is to be met. -/
  | reference
  /-- The library that is checked against it. -/
  | target
  deriving DecidableEq

namespace Side

/-- The character between an enclosing type and a nested type in a full name. -/
def separator : Side → Char
  | reference => '$'
  | target => '+'

def label : Side → String
  | reference => "reference"
  | target => "target"

end Side

/-- The kind of a declared type. -/
inductive TypeDecl.Kind
  | classType
  | interfaceType
  | enumType
  | structType
  deriving DecidableEq

namespace TypeDecl.Kind

def all : List TypeDecl.Kind :=
  [classType, interfaceType, enumType, structType]

/-- The word for a kind in documents and reports. -/
def label : TypeDecl.Kind → String
  | classType => "class"
  | interfaceType => "interface"
  | enumType => "enum"
  | structType => "struct"

def ofLabel? (word : String) : Option TypeDecl.Kind :=
  all.find? (fun kind => kind.label == word)

theorem ofLabel?_label (kind : TypeDecl.Kind) :
    ofLabel? kind.label = some kind := by
  cases kind <;> decide

/-- Whether a reference type of one kind may pair with a target type of another.

The reference side has no value types, so a target struct may stand for a class. -/
def compatible : (reference target : TypeDecl.Kind) → Bool
  | classType, classType => true
  | interfaceType, interfaceType => true
  | enumType, enumType => true
  | classType, structType => true
  | _, _ => false

end TypeDecl.Kind

/-- The kind of a member. -/
inductive Member.Kind
  | field
  | property
  | method
  | constructor
  deriving DecidableEq

namespace Member.Kind

/-- All kinds of members, in the order in which they are compared and listed. -/
def all : List Member.Kind :=
  [field, property, method, constructor]

def rank : Member.Kind → Nat
  | field => 0
  | property => 1
  | method => 2
  | constructor => 3

/-- The word for a kind in documents and reports. -/
def label : Member.Kind → String
  | field => "field"
  | property => "property"
  | method => "method"
  | constructor => "constructor"

def ofLabel? (word : String) : Option Member.Kind :=
  all.find? (fun kind => kind.label == word)

theorem ofLabel?_label (kind : Member.Kind) :
    ofLabel? kind.label = some kind := by
  cases kind <;> decide

/-- Whether members of this kind have a declared type that is compared on its own. -/
def holdsValue : Member.Kind → Bool
  | field => true
  | property => true
  | method => false
  | constructor => false

theorem holdsValue_iff {kind : Member.Kind} :
    kind.holdsValue = true ↔ kind = field ∨ kind = property := by
  cases kind <;> decide

end Member.Kind

end Counterpart
