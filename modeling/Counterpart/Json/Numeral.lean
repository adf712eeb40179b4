/-!
# Numerals

The numbers of JSON text: their grammar, and whether their magnitude is too large for a
number in double precision.  The magnitude is that of the leading digits that fit in 64 bits
times a power of ten, each rounded to 53 bits.
-/

namespace Counterpart

/-- A number as written. -/
structure Numeral where
  negative : Bool
  /-- The digits in front of the point. -/
  whole : List Char
  /-- The digits behind the point. -/
  fraction : List Char
  exponent : Int
  /-- Neither sign, point nor exponent is written. -/
  isPlain : Bool
  deriving DecidableEq

namespace Numeral

def digitsValue (digits : List Char) : Nat :=
  digits.foldl (fun n c => 10 * n + (c.toNat - '0'.toNat)) 0

/-- The exponent that follows `e` or `E`: an optional sign and at least one digit. -/
def readExponent? (chars : List Char) : Option Int :=
  match chars with
  | '+' :: digits => if isDigits digits then some (digitsValue digits) else none
  | '-' :: digits => if isDigits digits then some (-(digitsValue digits : Int)) else none
  | digits => if isDigits digits then some (digitsValue digits) else none
where
  isDigits (chars : List Char) : Bool :=
    !chars.isEmpty && chars.all Char.isDigit

/-- The fraction and the exponent that follow the digits in front of the point, and whether
there is neither. -/
def readTail? (chars : List Char) : Option (List Char × Int × Bool) :=
  match chars with
  | [] => some ([], 0, true)
  | '.' :: rest =>
    let fraction := rest.takeWhile Char.isDigit
    if fraction.isEmpty then none
    else
      match rest.dropWhile Char.isDigit with
      | [] => some (fraction, 0, false)
      | c :: digits =>
        if c == 'e' || c == 'E' then
          (readExponent? digits).map fun exponent => (fraction, exponent, false)
        else none
  | c :: digits =>
    if c == 'e' || c == 'E' then
      (readExponent? digits).map fun exponent => ([], exponent, false)
    else none

/-- The number that characters write.

The digits in front of the point start with a zero only if they are a single zero. -/
def ofChars? (chars : List Char) : Option Numeral :=
  let negative := chars.head? == some '-'
  let unsigned := if negative then chars.drop 1 else chars
  let whole := unsigned.takeWhile Char.isDigit
  if whole.isEmpty || (whole.head? == some '0' && whole.length != 1) then none
  else
    (readTail? (unsigned.dropWhile Char.isDigit)).map fun (fraction, exponent, plain) =>
      { negative, whole, fraction, exponent, isPlain := plain && !negative }

/-- The value of the leading digits that fit in 64 bits, and the number of digits left out. -/
def leading : Nat → List Char → Nat × Nat
  | value, [] => (value, 0)
  | value, c :: rest =>
    let next := 10 * value + (c.toNat - '0'.toNat)
    if next < Nat.pow 2 64 then leading next rest else (value, rest.length + 1)

/-- A natural number rounded to 53 significant bits, a half to the even neighbour. -/
def roundTo53Bits (n : Nat) : Nat :=
  if n < Nat.pow 2 53 then n
  else
    let shift := n.log2 - 52
    let quotient := n / Nat.pow 2 shift
    let remainder := n % Nat.pow 2 shift
    let half := Nat.pow 2 (shift - 1)
    if half < remainder || (remainder == half && quotient % 2 == 1) then
      (quotient + 1) * Nat.pow 2 shift
    else quotient * Nat.pow 2 shift

/-- The least number too large for a binary precision: half a unit behind its largest number. -/
def limit (bits top : Nat) : Nat :=
  Nat.pow 2 top - Nat.pow 2 (top - bits - 1)

def doubleLimit : Nat :=
  limit 53 1024

/-- Whether a number is too large for double precision. -/
def isTooLarge (numeral : Numeral) : Bool :=
  let (significand, dropped) := leading 0 (numeral.whole ++ numeral.fraction)
  let exponent : Int := numeral.exponent - numeral.fraction.length + dropped
  significand != 0 && 0 ≤ exponent &&
    (308 < exponent ||
      doubleLimit ≤ roundTo53Bits significand * roundTo53Bits (Nat.pow 10 exponent.toNat))

end Numeral

end Counterpart
