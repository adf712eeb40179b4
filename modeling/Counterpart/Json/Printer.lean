import Counterpart.Json.Token

/-!
# Writing JSON text

A value is written on one line, or over several lines with two spaces for every level.  In
strings only the quote, the backslash and control characters are escaped.
-/

namespace Counterpart
namespace Json

def hexDigit (n : Nat) : Char :=
  if n < 10 then Char.ofNat ('0'.toNat + n) else Char.ofNat ('a'.toNat + (n - 10))

def escape (c : Char) : List Char :=
  if c = '"' then ['\\', '"']
  else if c = '\\' then ['\\', '\\']
  else if c = '\x08' then ['\\', 'b']
  else if c = '\x0c' then ['\\', 'f']
  else if c = '\n' then ['\\', 'n']
  else if c = '\r' then ['\\', 'r']
  else if c = '\t' then ['\\', 't']
  else if c.toNat < 0x20 then
    ['\\', 'u', '0', '0', hexDigit (c.toNat / 16), hexDigit (c.toNat % 16)]
  else [c]

def quote (text : String) : List Char :=
  '"' :: text.toList.flatMap escape ++ ['"']

/-- The tokens between the elements of a list. -/
def separated (parts : List (List Token)) : List Token :=
  [Token.comma].intercalate parts

mutual

def tokens : Json → List Token
  | string text => [.text (some text)]
  | array items => .beginArray :: separated (itemTokens items) ++ [.endArray]
  | object entries => .beginObject :: separated (entryTokens entries) ++ [.endObject]
  | unreadable => [.text none]
  | atom => [.atom atom]

/-- The tokens of the items of an array. -/
def itemTokens : List Json → List (List Token)
  | [] => []
  | item :: rest => tokens item :: itemTokens rest

/-- The tokens of the entries of an object. -/
def entryTokens : List (String × Json) → List (List Token)
  | [] => []
  | (key, value) :: rest => (.text (some key) :: .colon :: tokens value) :: entryTokens rest

end

/-- A value that is neither a string, an array nor an object, as written. -/
def atomChars : Json → List Char
  | bool true => ['t', 'r', 'u', 'e']
  | bool false => ['f', 'a', 'l', 's', 'e']
  | natural value => Nat.toDigits 10 value
  | number lexeme => lexeme.toList
  | _ => ['n', 'u', 'l', 'l']

/-- A token as written; what has no value shows a surrogate without its partner. -/
def Token.chars : Token → List Char
  | beginObject => ['\x7b']
  | endObject => ['\x7d']
  | beginArray => ['[']
  | endArray => [']']
  | comma => [',']
  | colon => [':']
  | text (some content) => quote content
  | text none => ['"', '\\', 'u', 'd', '8', '0', '0', '"']
  | atom value => atomChars value

def compact (value : Json) : String :=
  String.ofList ((tokens value).flatMap Token.chars)

/-- The line break in front of a given number of levels. -/
def lineBreak (levels : Nat) : List Char :=
  '\n' :: List.replicate (2 * levels) ' '

mutual

/-- A value over several lines, inside a number of levels. -/
def indented (levels : Nat) : Json → List Char
  | string text => quote text
  | array [] => ['[', ']']
  | array (item :: rest) =>
    '[' :: lineBreak (levels + 1) ++ indented (levels + 1) item ++
      indentedItems (levels + 1) rest ++ lineBreak levels ++ [']']
  | object [] => ['\x7b', '\x7d']
  | object ((key, value) :: rest) =>
    '\x7b' :: lineBreak (levels + 1) ++ quote key ++ [':', ' '] ++
      indented (levels + 1) value ++ indentedEntries (levels + 1) rest ++
      lineBreak levels ++ ['\x7d']
  | unreadable => Token.chars (.text none)
  | atom => atomChars atom

/-- The items after the first of an array, each on its own line. -/
def indentedItems (levels : Nat) : List Json → List Char
  | [] => []
  | item :: rest =>
    ',' :: lineBreak levels ++ indented levels item ++ indentedItems levels rest

/-- The entries after the first of an object, each on its own line. -/
def indentedEntries (levels : Nat) : List (String × Json) → List Char
  | [] => []
  | (key, value) :: rest =>
    ',' :: lineBreak levels ++ quote key ++ [':', ' '] ++ indented levels value ++
      indentedEntries levels rest

end

def pretty (value : Json) : String :=
  String.ofList (indented 0 value)

end Json
end Counterpart
