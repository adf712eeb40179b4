import Counterpart.Text.Blank

/-!
# Type names as written in declarations

A base type, contract, member type or parameter is written with type arguments and array
suffixes.  Reading it drops the arguments (and what follows them), surrounding white space,
and counts the array suffixes.
-/

namespace Counterpart
namespace Naming

/-- A written type: the name of its element type and the number of array suffixes. -/
structure TypeName where
  element : String
  rank : Nat
  deriving DecidableEq

namespace TypeName

/-- The characters in front of the type arguments, which begin with `<` or `[[`. -/
def beforeArguments : List Char → List Char
  | [] => []
  | '<' :: _ => []
  | '[' :: '[' :: _ => []
  | c :: rest => c :: beforeArguments rest

/-- The number of array suffixes at the front of a reversed name, and what remains. -/
def peelArrays : List Char → Nat × List Char
  | ']' :: '[' :: rest =>
    let (rank, element) := peelArrays rest
    (rank + 1, element)
  | element => (0, element)

def ofText (text : String) : TypeName :=
  let name := Text.trim (String.ofList (beforeArguments text.toList))
  let (rank, element) := peelArrays name.toList.reverse
  ⟨String.ofList element.reverse, rank⟩

end TypeName
end Naming
end Counterpart
