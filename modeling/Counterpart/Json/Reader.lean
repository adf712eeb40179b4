import Counterpart.Json.Token

/-!
# Reading JSON text

Tokens are read into a value with a stack of the arrays and objects that are still open, so
nesting of any depth is read in one pass.  An array or object inside too many others is read
to its end, but has no value.
-/

namespace Counterpart
namespace Json

/-- An open array or object, with what was read of it in reverse. -/
inductive Frame
  | items (before : List Json)
  /-- An object at the value of a key. -/
  | entry (before : List (Option String × Json)) (key : Option String)

/-- What is to come next, inside a stack of open arrays and objects. -/
inductive Reader
  | atValue (stack : List Frame)
  /-- The first item of an array, or its end. -/
  | atItemOrEnd (stack : List Frame)
  | atKey (before : List (Option String × Json)) (stack : List Frame)
  /-- The first key of an object, or its end. -/
  | atKeyOrEnd (stack : List Frame)
  | atColon (before : List (Option String × Json)) (key : Option String) (stack : List Frame)
  /-- A value is complete; a separator or an end is to come. -/
  | after (value : Json) (stack : List Frame)

/-- The largest number of arrays and objects that enclose each other. -/
def maxNesting : Nat := 127

/-- An array or object that is complete inside a stack of open ones; unreadable if it is nested
too deeply. -/
def nested (stack : List Frame) (value : Json) : Json :=
  if (stack.drop (maxNesting - 1)).isEmpty then value else .unreadable

/-- The object with the given entries; unreadable if a key is. -/
def ofEntries (entries : List (Option String × Json)) : Json :=
  match entries.mapM (fun entry => entry.1.map fun key => (key, entry.2)) with
  | some entries => .object entries
  | none => .unreadable

def ofText : Option String → Json
  | some text => .string text
  | none => .unreadable

namespace Reader

/-- The reader after a token where a value is to come. -/
def begin (stack : List Frame) : Token → Option Reader
  | .text content => some (.after (ofText content) stack)
  | .atom value => some (.after value stack)
  | .beginArray => some (.atItemOrEnd stack)
  | .beginObject => some (.atKeyOrEnd stack)
  | _ => none

/-- The reader after a token where a separator or an end is to come. -/
def continue? (value : Json) : List Frame → Token → Option Reader
  | .items before :: stack, .comma => some (.atValue (.items (value :: before) :: stack))
  | .items before :: stack, .endArray =>
    some (.after (nested stack (.array (value :: before).reverse)) stack)
  | .entry before key :: stack, .comma => some (.atKey ((key, value) :: before) stack)
  | .entry before key :: stack, .endObject =>
    some (.after (nested stack (ofEntries ((key, value) :: before).reverse)) stack)
  | _, _ => none

def step : Reader → Token → Option Reader
  | atValue stack, token => begin stack token
  | atItemOrEnd stack, .endArray => some (.after (nested stack (.array [])) stack)
  | atItemOrEnd stack, token => begin (.items [] :: stack) token
  | atKey before stack, .text content => some (.atColon before content stack)
  | atKeyOrEnd stack, .endObject => some (.after (nested stack (.object [])) stack)
  | atKeyOrEnd stack, .text content => some (.atColon [] content stack)
  | atColon before key stack, .colon => some (.atValue (.entry before key :: stack))
  | after value stack, token => continue? value stack token
  | _, _ => none

def finish : Reader → Option Json
  | after value [] => some value
  | _ => none

end Reader

/-- The value that JSON text writes. -/
def read? (text : String) : Option Json :=
  (tokenize? text.toList).bind fun tokens =>
    (tokens.foldlM Reader.step (.atValue [])).bind Reader.finish

end Json
end Counterpart
