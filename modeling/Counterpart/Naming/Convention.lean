import Counterpart.Kind
import Counterpart.Text.Capital
import Counterpart.Text.Pieces

/-!
# Naming conventions of the two sides

Interfaces of the target side carry a marker letter, implementing classes of the reference
side a suffix, generic types of the target side their arity behind a mark, fields of the
reference side an affix.
Every function here leaves a name that does not follow the convention as it is.
-/

namespace Counterpart
namespace Naming

/-- The letter in front of interface names on the target side. -/
def interfaceLetter : Char := 'I'

/-- The ending of reference classes that implement an interface of the remaining name. -/
def implementationEnding : String := "Impl"

/-- The character between a generic name and its arity on the target side. -/
def arityMark : Char := '\x60'

/-- An interface name without its marker, which stands before an uppercase letter. -/
def dropInterfaceMarker
    (name : String) (kind : TypeDecl.Kind) :
    String :=
  match kind, name.toList with
  | .interfaceType, letter :: next :: rest =>
    if letter == interfaceLetter && Text.isUppercase next then
      String.ofList (next :: rest)
    else name
  | _, _ => name

/-- The name before the implementation suffix, if it ends in one and is longer. -/
def implementationStem? (name : String) : Option String :=
  (Text.beforeEnd? implementationEnding name).filter (fun stem => stem != "")

/-- A class name without the implementation suffix. -/
def dropImplementationSuffix
    (name : String) (kind : TypeDecl.Kind) :
    String :=
  if kind = .classType then (implementationStem? name).getD name else name

/-- A name up to the arity mark. -/
def eraseArity (name : String) : String :=
  Text.before arityMark name

/-- The target namespace of a package without a mapping: every segment capitalized. -/
def capitalizeSegments (package : String) : String :=
  Text.join "." ((Text.pieces '.' package).map Text.capitalize)

/-- A member name without its affix. -/
structure BareName where
  canonical : String
  /-- The name carried the affix of static fields. -/
  hasStaticAffix : Bool
  deriving DecidableEq

/-- What follows an affix in a name that has more than the affix. -/
def afterAffix? (affix name : String) : Option String :=
  (Text.afterStart? affix name).filter (fun rest => rest != "")

/-- A member name cut after the static affix, the instance affix or an underscore. -/
def bareName (name : String) : BareName :=
  match afterAffix? "s_" name with
  | some rest => ⟨rest, true⟩
  | none =>
    match afterAffix? "m_" name with
    | some rest => ⟨rest, false⟩
    | none => ⟨(afterAffix? "_" name).getD name, false⟩

end Naming
end Counterpart
