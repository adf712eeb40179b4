import Counterpart.Json.Value

/-!
# Parts of JSON values

Readers for the parts of a document.  A record is an object, or an array of its values in the
order of its keys.  A key of a record may be given once only; keys that are not asked for are
passed over.  A value of another shape than asked for is refused.
-/

namespace Counterpart
namespace Json

def text? : Json → Option String
  | string text => some text
  | _ => none

def bool? : Json → Option Bool
  | bool value => some value
  | _ => none

/-- A count below `2 ^ 64`. -/
def count? : Json → Option Nat
  | natural value => if value < Nat.pow 2 64 then some value else none
  | _ => none

/-- A word out of a fixed vocabulary: a string, or an object with the word as its only key
and the value null. -/
def tag? : Json → Option String
  | string text => some text
  | object [(key, null)] => some key
  | _ => none

/-- A word out of a fixed vocabulary, where an empty object may stand for null. -/
def looseTag? : Json → Option String
  | object [(key, object [])] => some key
  | value => tag? value

/-- A tag out of a list of words: a word, or its position in the list.  Tags take this form
where the value they stand in was kept before it is read. -/
def variant? (words : List String) : Json → Option String
  | string text => some text
  | natural position => words[position]?
  | _ => none

/-- The items of an array, each read in the same way. -/
def list? {α : Type} (read : Json → Option α) : Json → Option (List α)
  | array items => items.mapM read
  | _ => none

def entries? : Json → Option (List (String × Json))
  | object entries => some entries
  | _ => none

/-- The entries of a record: those of an object, or the items of an array under the keys in
their order.  An array may end before the values of the last keys, which have defaults. -/
def record? (keys last : List String) : Json → Option (List (String × Json))
  | object entries => some entries
  | array items =>
    if keys.length ≤ items.length ∧ items.length ≤ (keys ++ last).length then
      some ((keys ++ last).zip items)
    else none
  | _ => none

/-- The value given under one of several names of a key, if any; refused if there are two. -/
def find? (keys : List String) (entries : List (String × Json)) : Option (Option Json) :=
  match entries.filter (fun entry => keys.contains entry.1) with
  | [] => some none
  | [entry] => some (some entry.2)
  | _ => none

/-- The value of a key that has to be given, under one of several names. -/
def requiredAs?
    {α : Type} (keys : List String) (read : Json → Option α)
    (entries : List (String × Json)) :
    Option α :=
  match find? keys entries with
  | some (some value) => read value
  | _ => none

/-- The value of a key that has to be given. -/
def required?
    {α : Type} (key : String) (read : Json → Option α) (entries : List (String × Json)) :
    Option α :=
  requiredAs? [key] read entries

/-- The tag of a variant, and the value that its other parts are read from.  An array holds the
tag in front of the other parts. -/
def tagged? {α : Type} (key : String) (read : Json → Option α) : Json → Option (α × Json)
  | object entries => (required? key read entries).map fun tag => (tag, object entries)
  | array (first :: items) => (read first).map fun tag => (tag, array items)
  | _ => none

/-- The value of a key, or a default if it is not given. -/
def default?
    {α : Type} (key : String) (read : Json → Option α) (missing : α)
    (entries : List (String × Json)) :
    Option α :=
  match find? [key] entries with
  | some (some value) => read value
  | some none => some missing
  | none => none

/-- The value of a key that may be missing or null. -/
def optional?
    {α : Type} (key : String) (read : Json → Option α) (entries : List (String × Json)) :
    Option (Option α) :=
  match find? [key] entries with
  | some (some null) => some none
  | some (some value) => (read value).map some
  | some none => some none
  | none => none

/-- The list of texts under a key, empty if it is not given. -/
def texts? (key : String) (entries : List (String × Json)) : Option (List String) :=
  default? key (list? text?) [] entries

def ofTexts (texts : List String) : Json :=
  .array (texts.map .string)

def ofText? : Option String → Json
  | some text => .string text
  | none => .null

/-- The entry of a text, if there is one. -/
def textEntry (key : String) : Option String → List (String × Json)
  | some text => [(key, .string text)]
  | none => []

/-- The entry of a list, unless it is empty. -/
def listEntry {α : Type} (key : String) (write : α → Json) : List α → List (String × Json)
  | [] => []
  | items => [(key, .array (items.map write))]

end Json
end Counterpart
