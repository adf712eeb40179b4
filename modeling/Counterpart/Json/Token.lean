import Counterpart.Json.Numeral
import Counterpart.Json.Value

/-!
# Tokens of JSON text

JSON text is read character by character into tokens.  White space separates tokens and is
dropped; strings are decoded; numbers and words are read to their last character and then
checked as a whole.
-/

namespace Counterpart
namespace Json

/-- A token of JSON text. -/
inductive Token
  | beginObject
  | endObject
  | beginArray
  | endArray
  | comma
  | colon
  /-- A string; nothing if a surrogate has no partner. -/
  | text (content : Option String)
  /-- A number or one of the words `true`, `false` and `null`. -/
  | atom (value : Json)

/-- A piece of a string: a character, or a UTF-16 unit given by its number. -/
inductive Piece
  | char (c : Char)
  | unit (code : Nat)

/-- The characters that the pieces of a string make up; surrogates have to come in pairs. -/
def Piece.decode? : List Piece → Option (List Char)
  | [] => some []
  | char c :: rest => (decode? rest).map (c :: ·)
  | unit high :: unit low :: rest =>
    if 0xD800 ≤ high && high < 0xDC00 then
      if 0xDC00 ≤ low && low < 0xE000 then
        (decode? rest).map
          (Char.ofNat (0x10000 + (high - 0xD800) * 0x400 + (low - 0xDC00)) :: ·)
      else none
    else if 0xDC00 ≤ high && high < 0xE000 then none
    else (decode? (unit low :: rest)).map (Char.ofNat high :: ·)
  | unit code :: rest =>
    if 0xD800 ≤ code && code < 0xE000 then none
    else (decode? rest).map (Char.ofNat code :: ·)

/-- How far an escape sequence inside a string has been read. -/
inductive Escape
  | outside
  /-- The backslash has been read. -/
  | begun
  /-- Some of the four hexadecimal digits have been read. -/
  | digits (count value : Nat)

/-- What is being read; collected characters and pieces are in reverse. -/
inductive Mode
  | between
  | word (letters : List Char)
  | number (chars : List Char)
  | text (pieces : List Piece) (escape : Escape)

/-- A reader of tokens: what is being read, and the tokens found, in reverse. -/
structure Lexer where
  mode : Mode := .between
  tokens : List Token := []

def hexValue? (c : Char) : Option Nat :=
  if '0' ≤ c && c ≤ '9' then some (c.toNat - '0'.toNat)
  else if 'a' ≤ c && c ≤ 'f' then some (c.toNat - 'a'.toNat + 10)
  else if 'A' ≤ c && c ≤ 'F' then some (c.toNat - 'A'.toNat + 10)
  else none

/-- The character that an escape of a single letter stands for. -/
def escaped? : Char → Option Char
  | '"' => some '"'
  | '\\' => some '\\'
  | '/' => some '/'
  | 'b' => some '\x08'
  | 'f' => some '\x0c'
  | 'n' => some '\n'
  | 'r' => some '\r'
  | 't' => some '\t'
  | _ => none

def word? (letters : List Char) : Option Json :=
  if letters = ['t', 'r', 'u', 'e'] then some (.bool true)
  else if letters = ['f', 'a', 'l', 's', 'e'] then some (.bool false)
  else if letters = ['n', 'u', 'l', 'l'] then some .null
  else none

/-- The value of a number; unreadable if it is out of range. -/
def number? (chars : List Char) : Option Json :=
  (Numeral.ofChars? chars).map fun numeral =>
    if numeral.isTooLarge then .unreadable
    else if numeral.isPlain then .natural (Numeral.digitsValue numeral.whole)
    else .number (String.ofList chars)

/-- Whether a character may stand in a number. -/
def isNumberChar (c : Char) : Bool :=
  c.isDigit || ['+', '-', '.', 'e', 'E'].contains c

/-- Whether a character separates tokens without being one. -/
def isSpace (c : Char) : Bool :=
  [' ', '\t', '\n', '\r'].contains c

namespace Lexer

/-- The reader with one more token, between tokens. -/
def emit (lexer : Lexer) (token : Token) : Lexer :=
  { mode := .between, tokens := token :: lexer.tokens }

def start (lexer : Lexer) (c : Char) : Option Lexer :=
  if isSpace c then some { lexer with mode := .between }
  else if c = '\x7b' then some (lexer.emit .beginObject)
  else if c = '\x7d' then some (lexer.emit .endObject)
  else if c = '[' then some (lexer.emit .beginArray)
  else if c = ']' then some (lexer.emit .endArray)
  else if c = ',' then some (lexer.emit .comma)
  else if c = ':' then some (lexer.emit .colon)
  else if c = '"' then some { lexer with mode := .text [] .outside }
  else if c = '-' || c.isDigit then some { lexer with mode := .number [c] }
  else if c.isLower then some { lexer with mode := .word [c] }
  else none

/-- The reader after a character of a string. -/
def inText (lexer : Lexer) (pieces : List Piece) (escape : Escape) (c : Char) : Option Lexer :=
  match escape with
  | .outside =>
    if c = '"' then
      some (lexer.emit (.text ((Piece.decode? pieces.reverse).map String.ofList)))
    else if c = '\\' then some { lexer with mode := .text pieces .begun }
    else if c.toNat < 0x20 then none
    else some { lexer with mode := .text (.char c :: pieces) .outside }
  | .begun =>
    if c = 'u' then some { lexer with mode := .text pieces (.digits 0 0) }
    else
      (escaped? c).map fun e => { lexer with mode := .text (.char e :: pieces) .outside }
  | .digits count value =>
    (hexValue? c).map fun digit =>
      if count = 3 then
        { lexer with mode := .text (.unit (16 * value + digit) :: pieces) .outside }
      else { lexer with mode := .text pieces (.digits (count + 1) (16 * value + digit)) }

def step (lexer : Lexer) (c : Char) : Option Lexer :=
  match lexer.mode with
  | .between => lexer.start c
  | .word letters =>
    if c.isLower then some { lexer with mode := .word (c :: letters) }
    else (word? letters.reverse).bind fun value => (lexer.emit (.atom value)).start c
  | .number chars =>
    if isNumberChar c then some { lexer with mode := .number (c :: chars) }
    else (number? chars.reverse).bind fun value => (lexer.emit (.atom value)).start c
  | .text pieces escape => lexer.inText pieces escape c

/-- The tokens read, if the text may end here. -/
def finish (lexer : Lexer) : Option (List Token) :=
  match lexer.mode with
  | .between => some lexer.tokens.reverse
  | .word letters => (word? letters.reverse).map fun value =>
    (lexer.emit (.atom value)).tokens.reverse
  | .number chars => (number? chars.reverse).map fun value =>
    (lexer.emit (.atom value)).tokens.reverse
  | .text _ _ => none

end Lexer

/-- The tokens of JSON text. -/
def tokenize? (chars : List Char) : Option (List Token) :=
  (chars.foldlM Lexer.step {}).bind Lexer.finish

end Json
end Counterpart
