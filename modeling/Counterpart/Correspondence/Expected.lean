import Counterpart.Declaration.Basic
import Counterpart.Naming.Path
import Counterpart.Rule

/-!
# The path expected under a rule

The nesting path a target type should have to meet a reference type under a naming rule, and
the test whether a given path meets it.
-/

namespace Counterpart

/-- The nesting path of a reference type. -/
def TypeDecl.referencePath (decl : TypeDecl) : Naming.Path :=
  Naming.Path.ofText .reference decl.localName

def TypeDecl.targetPath (decl : TypeDecl) : Naming.Path :=
  Naming.Path.ofText .target decl.localName

/-- The target path expected for a reference type, if the rule applies to the type.

A class always loses its implementation suffix, and an interface gains its marker. -/
def expectedPath? (reference : TypeDecl) (rule : Rule) : Option Naming.Path :=
  let path := reference.referencePath
  let stem := Naming.dropImplementationSuffix path.innermost reference.kind
  if rule.dropsSuffix != (stem != path.innermost) then none
  else if reference.kind = .interfaceType then
    some (path.rename (String.singleton Naming.interfaceLetter ++ path.innermost))
  else some (path.rename stem)

/-- Whether a path meets the expected one under a rule.

A flattening rule relates a nested path to one that is not; the others ask for the same
dotted path. -/
def Rule.meets (rule : Rule) (expected actual : Naming.Path) : Bool :=
  if rule.flattens then
    expected.isNested != actual.isNested &&
      (expected.flattened.contains actual.dotted || actual.flattened.contains expected.dotted)
  else expected.dotted == actual.dotted

end Counterpart
