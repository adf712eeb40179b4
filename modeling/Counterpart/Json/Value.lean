/-!
# JSON values

The values that JSON text writes.  Objects keep the order and the repetition of their keys.
Well-formed text may write what no value can hold; it is kept as `unreadable`, so that a part
of a document that nobody asks for does no harm.
-/

namespace Counterpart

/-- A JSON value. -/
inductive Json
  | null
  | bool (value : Bool)
  /-- A number written with digits only. -/
  | natural (value : Nat)
  /-- Any other number, as written. -/
  | number (lexeme : String)
  | string (text : String)
  | array (items : List Json)
  | object (entries : List (String × Json))
  /-- Well-formed text without a value: a string with a surrogate that has no partner, an
  object with such a key, a number out of range, an array or object nested too deeply. -/
  | unreadable

namespace Json

mutual

/-- Whether no part of a value is unreadable. -/
def isReadable : Json → Bool
  | array items => itemsReadable items
  | object entries => entriesReadable entries
  | unreadable => false
  | _ => true

/-- Whether all items of an array are readable. -/
def itemsReadable : List Json → Bool
  | [] => true
  | item :: rest => isReadable item && itemsReadable rest

/-- Whether all values of an object are readable. -/
def entriesReadable : List (String × Json) → Bool
  | [] => true
  | (_, value) :: rest => isReadable value && entriesReadable rest

end

end Json

end Counterpart
