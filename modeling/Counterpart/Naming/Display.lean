import Counterpart.Naming.Convention

/-!
# Names for display

A full name as a reader expects it: nesting levels joined with a dot, and generic arity
written as type parameters.
-/

namespace Counterpart
namespace Naming

/-- The number that decimal digits spell, if it is below `2 ^ 64`.

A single plus sign may stand in front; nothing else but ASCII digits is allowed. -/
def readArity? (digits : List Char) : Option Nat :=
  let unsigned := match digits with
    | '+' :: rest => rest
    | _ => digits
  if unsigned.isEmpty || !unsigned.all Char.isDigit then none
  else
    let value := unsigned.foldl (fun n c => 10 * n + (c.toNat - '0'.toNat)) 0
    if value < Nat.pow 2 64 then some value else none

/-- The type parameters of a given arity: `T`, or `T1, T2, …`. -/
def typeParameters (arity : Nat) : String :=
  if arity = 1 then "T"
  else Text.join ", " ((List.range arity).map (fun i => s!"T{i + 1}"))

/-- One level of a name with its arity written as type parameters.

A level whose mark is not followed by a number stays as it is. -/
def displayLevel (level : String) : String :=
  match level.toList.dropWhile (· != arityMark) with
  | [] => level
  | _ :: digits =>
    match readArity? digits with
    | none => level
    | some 0 => eraseArity level
    | some arity => s!"{eraseArity level}<{typeParameters arity}>"

/-- A full name for display. -/
def readableName (fullName : String) (side : Side) : String :=
  Text.join "." ((Text.pieces side.separator fullName).map displayLevel)

end Naming
end Counterpart
