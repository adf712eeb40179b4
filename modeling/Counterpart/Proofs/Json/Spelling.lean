import Counterpart.Json.Printer
import Counterpart.Proofs.Json.Numeral

/-!
# Tokens are read back as they are written

Characters spell a list of tokens if each token stands there as it is written, with any white space
in between.  A number or a word ends where a character follows that cannot go on with it.  The
reader of tokens finds in a spelling exactly the tokens that were written.

* `Lexer.run_quote`, `Lexer.run_word`, `Lexer.run_number`: what the reader makes of a string, a word
  and a number.
* `Spells.tokenize?_eq`: a spelling is read back.
-/

namespace Counterpart
namespace Json

/-- Whether characters start with none that could go on with a number or a word. -/
def EndsAtom (chars : List Char) : Prop :=
  ∀ c, chars.head? = some c → isNumberChar c = false ∧ c.isLower = false

theorem endsAtom_nil :
    EndsAtom [] := by
  simp [EndsAtom]

theorem endsAtom_cons
    {c : Char} {rest : List Char} :
    EndsAtom (c :: rest) ↔ isNumberChar c = false ∧ c.isLower = false := by
  simp [EndsAtom]

theorem EndsAtom.append
    {chars rest : List Char} (h : EndsAtom chars) (hrest : EndsAtom rest) :
    EndsAtom (chars ++ rest) := by
  cases chars with
  | nil =>
      exact hrest
  | cons c others =>
      exact endsAtom_cons.mpr (endsAtom_cons.mp h)

theorem endsAtom_of_isSpace
    {c : Char} (h : isSpace c = true) (rest : List Char) :
    EndsAtom (c :: rest) := by
  rw [endsAtom_cons]
  simp only [isSpace, List.contains_eq_mem, List.mem_cons, List.not_mem_nil, or_false,
    decide_eq_true_eq] at h
  rcases h with rfl | rfl | rfl | rfl <;> decide

/-- A character as a string is read that has it: control characters without an escape of their own
come as the number of a unit. -/
def pieceOf (c : Char) : Piece :=
  if c.toNat < 0x20 ∧ c ≠ '\x08' ∧ c ≠ '\x0c' ∧ c ≠ '\n' ∧ c ≠ '\r' ∧ c ≠ '\t' then .unit c.toNat
  else .char c

theorem decode?_unit
    {code : Nat} (h : code < 0xD800) (rest : List Piece) :
    Piece.decode? (.unit code :: rest) = (Piece.decode? rest).map (Char.ofNat code :: ·) := by
  have hnot : ¬ 0xD800 ≤ code := Nat.not_le.mpr h
  have hlow : ¬ 0xDC00 ≤ code := by omega
  cases rest with
  | nil =>
      simp [Piece.decode?, hnot]
  | cons next rest =>
      cases next <;> simp [Piece.decode?, hnot, hlow]

/-- The pieces of a string make up its characters. -/
theorem decode?_pieceOf
    (chars : List Char) :
    Piece.decode? (chars.map pieceOf) = some chars := by
  induction chars with
  | nil =>
      rfl
  | cons c rest ih =>
      rw [List.map_cons, pieceOf]
      split
      case isTrue hcontrol =>
        rw [decode?_unit (by omega), ih]
        simp
      case isFalse =>
        simp [Piece.decode?, ih]

theorem hexValue?_hexDigit
    {n : Nat} (h : n < 16) :
    hexValue? (hexDigit n) = some n := by
  interval_cases n <;> rfl

namespace Lexer

/-- The tokens that the reader finds if the given characters are all that follows. -/
def run (lexer : Lexer) (chars : List Char) : Option (List Token) :=
  (chars.foldlM step lexer).bind finish

theorem run_nil
    (lexer : Lexer) :
    lexer.run [] = lexer.finish :=
  rfl

theorem run_cons
    (lexer : Lexer) (c : Char) (rest : List Char) :
    lexer.run (c :: rest) = (lexer.step c).bind fun next => next.run rest := by
  cases h : lexer.step c <;> simp [run, h]

theorem run_append
    {lexer next : Lexer} {chars : List Char}
    (h : chars.foldlM step lexer = some next) (rest : List Char) :
    lexer.run (chars ++ rest) = next.run rest := by
  simp [run, h]

theorem run_space
    {c : Char} (h : isSpace c = true) (found : List Token) (rest : List Char) :
    run ⟨.between, found⟩ (c :: rest) = run ⟨.between, found⟩ rest := by
  simp [run_cons, step, start, h]

/-- A character of a string is read as its piece, however it is written. -/
theorem foldlM_step_escape
    (c : Char) (pieces : List Piece) (found : List Token) :
    (escape c).foldlM step ⟨.text pieces .outside, found⟩ =
      some ⟨.text (pieceOf c :: pieces) .outside, found⟩ := by
  unfold escape
  split_ifs with hquote hslash hback hform hline hreturn htab hcontrol
  · subst hquote
    rfl
  · subst hslash
    rfl
  · subst hback
    rfl
  · subst hform
    rfl
  · subst hline
    rfl
  · subst hreturn
    rfl
  · subst htab
    rfl
  · have hpiece : pieceOf c = .unit c.toNat := by
      simp [pieceOf, hcontrol, hback, hform, hline, hreturn, htab]
    have hzero : hexValue? '0' = some 0 := rfl
    have hhigh : hexValue? (hexDigit (c.toNat / 16)) = some (c.toNat / 16) :=
      hexValue?_hexDigit (by omega)
    have hlow : hexValue? (hexDigit (c.toNat % 16)) = some (c.toNat % 16) :=
      hexValue?_hexDigit (Nat.mod_lt _ (by decide))
    have hdigits : 16 * (c.toNat / 16) + c.toNat % 16 = c.toNat := Nat.div_add_mod ..
    simp [step, inText, hzero, hhigh, hlow, hdigits, hpiece]
  · have hpiece : pieceOf c = .char c := by
      simp [pieceOf, hcontrol]
    simp [step, inText, hquote, hslash, hcontrol, hpiece]

theorem foldlM_step_escapes
    (chars : List Char) (pieces : List Piece) (found : List Token) :
    (chars.flatMap escape).foldlM step ⟨.text pieces .outside, found⟩ =
      some ⟨.text ((chars.map pieceOf).reverse ++ pieces) .outside, found⟩ := by
  induction chars generalizing pieces with
  | nil =>
      rfl
  | cons c rest ih =>
      simp [foldlM_step_escape, ih]

theorem run_quote
    (text : String) (found : List Token) (rest : List Char) :
    run ⟨.between, found⟩ (quote text ++ rest) =
      run ⟨.between, .text (some text) :: found⟩ rest := by
  have hopen : start ⟨.between, found⟩ '"' = some ⟨.text [] .outside, found⟩ := rfl
  simp [quote, run_cons, step, hopen, run_append (foldlM_step_escapes ..), inText, emit,
    decode?_pieceOf]

/-- A word ends where no letter follows. -/
theorem run_word
    {letters : List Char} {value : Json} (h : word? letters.reverse = some value)
    {rest : List Char} (ends : EndsAtom rest) (found : List Token) :
    run ⟨.word letters, found⟩ rest = run ⟨.between, .atom value :: found⟩ rest := by
  cases rest with
  | nil =>
      simp [run_nil, finish, h, emit]
  | cons c others =>
      simp [run_cons, step, (endsAtom_cons.mp ends).2, h, emit]

/-- A number ends where no character of a number follows. -/
theorem run_number
    {chars : List Char} {value : Json} (h : number? chars.reverse = some value)
    {rest : List Char} (ends : EndsAtom rest) (found : List Token) :
    run ⟨.number chars, found⟩ rest = run ⟨.between, .atom value :: found⟩ rest := by
  cases rest with
  | nil =>
      simp [run_nil, finish, h, emit]
  | cons c others =>
      simp [run_cons, step, (endsAtom_cons.mp ends).1, h, emit]

/-- Digits are read into one number, whatever was read of it. -/
theorem foldlM_step_digits
    {digits : List Char} (h : ∀ c ∈ digits, c.isDigit = true) (chars : List Char)
    (found : List Token) :
    digits.foldlM step ⟨.number chars, found⟩ =
      some ⟨.number (digits.reverse ++ chars), found⟩ := by
  induction digits generalizing chars with
  | nil =>
      rfl
  | cons c rest ih =>
      obtain ⟨hc, hrest⟩ := List.forall_mem_cons.mp h
      simp [step, isNumberChar, hc, ih hrest]

theorem start_of_isDigit
    {c : Char} (h : c.isDigit = true) (found : List Token) :
    start ⟨.between, found⟩ c = some ⟨.number [c], found⟩ := by
  have hother {d : Char} (hd : d.isDigit = false) : c ≠ d := by
    rintro rfl
    rw [h] at hd
    exact absurd hd (by decide)
  have hspace : isSpace c = false := by
    simp [isSpace, hother]
  simp [start, hspace, hother, h]

/-- The digits of a count are read as a number. -/
theorem run_natural
    {n : Nat} (h : n < 2 ^ 64) {rest : List Char} (ends : EndsAtom rest) (found : List Token) :
    run ⟨.between, found⟩ (Nat.toDigits 10 n ++ rest) =
      run ⟨.between, .atom (.natural n) :: found⟩ rest := by
  have hdigits := Numeral.isDigit_of_mem_toDigits (n := n)
  obtain ⟨first, others, hsplit⟩ :=
    List.exists_cons_of_ne_nil (Nat.toDigits_ne_nil (b := 10) (n := n))
  rw [hsplit] at hdigits ⊢
  obtain ⟨hfirst, hothers⟩ := List.forall_mem_cons.mp hdigits
  rw [List.cons_append, run_cons, step, start_of_isDigit hfirst, Option.bind_some,
    run_append (foldlM_step_digits hothers ..)]
  refine run_number ?_ ends found
  simpa [← hsplit] using number?_toDigits h

end Lexer

namespace Token

/-- A number or a word, which ends where a character follows that cannot go on with it. -/
def IsAtom : Token → Prop
  | atom _ => True
  | _ => False

/-- Whether a token ends in front of characters. -/
def EndsAt (token : Token) (rest : List Char) : Prop :=
  token.IsAtom → EndsAtom rest

/-- The reader finds the token where it is written and ends. -/
def IsRead (token : Token) : Prop :=
  ∀ (found : List Token) (rest : List Char), token.EndsAt rest →
    Lexer.run ⟨.between, found⟩ (token.chars ++ rest) = Lexer.run ⟨.between, token :: found⟩ rest

theorem isRead_text
    (text : String) :
    (Token.text (some text)).IsRead :=
  fun found rest _ => Lexer.run_quote text found rest

theorem isRead_null :
    (atom .null).IsRead :=
  fun found _ ends => Lexer.run_word rfl (ends trivial) found

theorem isRead_bool
    (value : Bool) :
    (atom (.bool value)).IsRead := by
  intro found rest ends
  cases value with
  | false =>
      exact Lexer.run_word rfl (ends trivial) found
  | true =>
      exact Lexer.run_word rfl (ends trivial) found

theorem isRead_natural
    {n : Nat} (h : n < 2 ^ 64) :
    (atom (.natural n)).IsRead :=
  fun found _ ends => Lexer.run_natural h (ends trivial) found

/-- A token that is a single character, wherever it stands. -/
structure IsMark (token : Token) (c : Char) : Prop where
  chars_eq : token.chars = [c]
  not_isAtom : ¬ token.IsAtom
  start_eq : ∀ found, Lexer.start ⟨.between, found⟩ c = some ⟨.between, token :: found⟩

theorem IsMark.isRead
    {token : Token} {c : Char} (h : token.IsMark c) :
    token.IsRead := by
  intro found rest _
  rw [h.chars_eq, List.singleton_append, Lexer.run_cons, Lexer.step, h.start_eq, Option.bind_some]

theorem isMark_beginObject :
    beginObject.IsMark '\x7b' :=
  ⟨rfl, id, fun _ => rfl⟩

theorem isMark_endObject :
    endObject.IsMark '\x7d' :=
  ⟨rfl, id, fun _ => rfl⟩

theorem isMark_beginArray :
    beginArray.IsMark '[' :=
  ⟨rfl, id, fun _ => rfl⟩

theorem isMark_endArray :
    endArray.IsMark ']' :=
  ⟨rfl, id, fun _ => rfl⟩

theorem isMark_comma :
    comma.IsMark ',' :=
  ⟨rfl, id, fun _ => rfl⟩

theorem isMark_colon :
    colon.IsMark ':' :=
  ⟨rfl, id, fun _ => rfl⟩

end Token

/-- Characters that spell tokens: each as it is written, with white space in between. -/
inductive Spells : List Token → List Char → Prop
  | nil : Spells [] []
  | space {tokens : List Token} {chars : List Char} {c : Char}
      (isSpace : isSpace c = true)
      (rest : Spells tokens chars) :
      Spells tokens (c :: chars)
  | token {tokens : List Token} {chars : List Char} {token : Token}
      (isRead : token.IsRead)
      (ends : token.EndsAt chars)
      (rest : Spells tokens chars) :
      Spells (token :: tokens) (token.chars ++ chars)

namespace Spells

variable {tokens : List Token} {chars : List Char}

theorem append
    {others : List Token} {rest : List Char}
    (h : Spells tokens chars) (hrest : Spells others rest) (ends : EndsAtom rest) :
    Spells (tokens ++ others) (chars ++ rest) := by
  induction h with
  | nil =>
      exact hrest
  | space isSpace _ ih =>
      exact .space isSpace ih
  | token isRead hends _ ih =>
      rw [List.append_assoc]
      exact .token isRead (fun hatom => (hends hatom).append ends) ih

theorem spaces
    {blank : List Char} (hblank : ∀ c ∈ blank, isSpace c = true) (h : Spells tokens chars) :
    Spells tokens (blank ++ chars) := by
  induction blank with
  | nil =>
      exact h
  | cons c rest ih =>
      obtain ⟨hc, hrest⟩ := List.forall_mem_cons.mp hblank
      exact .space hc (ih hrest)

theorem run_eq
    (h : Spells tokens chars) (found : List Token) :
    Lexer.run ⟨.between, found⟩ chars = some (found.reverse ++ tokens) := by
  induction h generalizing found with
  | nil =>
      simp [Lexer.run_nil, Lexer.finish]
  | space isSpace _ ih =>
      rw [Lexer.run_space isSpace, ih]
  | token isRead ends _ ih =>
      rw [isRead found _ ends, ih]
      simp

theorem mark
    {token : Token} {c : Char} (hmark : token.IsMark c) (h : Spells tokens chars) :
    Spells (token :: tokens) (c :: chars) := by
  simpa [hmark.chars_eq] using
    Spells.token hmark.isRead (fun hatom => absurd hatom hmark.not_isAtom) h

theorem text
    (content : String) (h : Spells tokens chars) :
    Spells (.text (some content) :: tokens) (quote content ++ chars) :=
  .token (Token.isRead_text content) False.elim h

theorem atom
    {value : Json} (h : (Token.atom value).IsRead) :
    Spells [.atom value] (atomChars value) := by
  simpa [Token.chars] using Spells.token h (fun _ => endsAtom_nil) .nil

/-- The tokens of a spelling are read back. -/
theorem tokenize?_eq
    (h : Spells tokens chars) :
    tokenize? chars = some tokens :=
  h.run_eq []

end Spells
end Json
end Counterpart
