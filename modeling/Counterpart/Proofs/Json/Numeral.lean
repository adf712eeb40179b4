import Counterpart.Json.Token
import Mathlib.Data.List.TakeWhile
import Mathlib.Tactic.IntervalCases

/-!
# Counts are read back

The decimal digits of a count below `2 ^ 64` are a number of JSON text, and its value is the count.
They do not start with a zero they could do without, all of them fit in 64 bits, and rounding leaves
them far below the limit of double precision.

* `Numeral.ofChars?_toDigits`: the digits as a numeral.
* `Json.number?_toDigits`: the digits read back.
-/

namespace Counterpart
namespace Numeral

theorem isDigit_of_mem_toDigits
    {n : Nat} :
    ∀ c ∈ Nat.toDigits 10 n, c.isDigit = true :=
  fun _ hc => Nat.isDigit_of_mem_toDigits (by decide) (by decide) hc

/-- Only the digits of zero start with a zero. -/
theorem eq_zero_of_head?_toDigits
    {n : Nat} (h : (Nat.toDigits 10 n).head? = some '0') :
    n = 0 := by
  induction n using Nat.strongRecOn with
  | ind n ih =>
      rcases Nat.lt_or_ge n 10 with hn | hn
      · rw [Nat.toDigits_of_lt_base hn] at h
        interval_cases n <;> simp_all [Nat.digitChar]
      · obtain ⟨first, rest, hsplit⟩ :=
          List.exists_cons_of_ne_nil (Nat.toDigits_ne_nil (b := 10) (n := n / 10))
        rw [Nat.toDigits_of_base_le (by decide) hn, hsplit] at h
        have hzero := ih (n / 10) (by omega) (by rw [hsplit]; exact h)
        omega

theorem digitsValue_toDigits
    (n : Nat) :
    digitsValue (Nat.toDigits 10 n) = n :=
  Nat.ofDigitChars_toDigits (by decide) (by decide)

theorem ofChars?_toDigits
    (n : Nat) :
    ofChars? (Nat.toDigits 10 n) =
      some
        { negative := false
          whole := Nat.toDigits 10 n
          fraction := []
          exponent := 0
          isPlain := true } := by
  have hall : (Nat.toDigits 10 n).takeWhile Char.isDigit = Nat.toDigits 10 n :=
    List.takeWhile_eq_self_iff.mpr isDigit_of_mem_toDigits
  have hnone : (Nat.toDigits 10 n).dropWhile Char.isDigit = [] :=
    List.dropWhile_eq_nil_iff.mpr isDigit_of_mem_toDigits
  have hunsigned : ((Nat.toDigits 10 n).head? == some '-') = false := by
    rw [beq_eq_false_iff_ne]
    intro h
    have hdigit := isDigit_of_mem_toDigits '-' (List.mem_of_mem_head? h)
    exact absurd hdigit (by decide)
  -- A single zero is allowed to stand in front.
  have hzero :
      ((Nat.toDigits 10 n).head? == some '0' && (Nat.toDigits 10 n).length != 1) = false := by
    rw [Bool.and_eq_false_iff, beq_eq_false_iff_ne, bne_eq_false_iff_eq]
    refine or_iff_not_imp_left.mpr fun h => ?_
    rw [eq_zero_of_head?_toDigits (not_not.mp h)]
    rfl
  simp [ofChars?, hunsigned, hall, hnone, hzero, Nat.toDigits_ne_nil, readTail?]

theorem le_ofDigitChars
    (digits : List Char) (value : Nat) :
    value ≤ Nat.ofDigitChars 10 digits value := by
  induction digits generalizing value with
  | nil =>
      exact Nat.le_refl value
  | cons c rest ih =>
      rw [Nat.ofDigitChars_cons]
      exact Nat.le_trans (by omega) (ih _)

/-- Digits whose value fits in 64 bits are all taken into account. -/
theorem leading_of_lt
    {digits : List Char} {value : Nat} (h : Nat.ofDigitChars 10 digits value < 2 ^ 64) :
    leading value digits = (Nat.ofDigitChars 10 digits value, 0) := by
  induction digits generalizing value with
  | nil =>
      rfl
  | cons c rest ih =>
      rw [Nat.ofDigitChars_cons] at h ⊢
      have hnext := Nat.lt_of_le_of_lt (le_ofDigitChars rest _) h
      exact (if_pos hnext).trans (ih h)

/-- Rounding does not double a number. -/
theorem roundTo53Bits_le
    (n : Nat) :
    roundTo53Bits n ≤ 2 * n := by
  unfold roundTo53Bits
  split
  · omega
  · have hn : n ≠ 0 := by
      rintro rfl
      contradiction
    have hunit : Nat.pow 2 (n.log2 - 52) ≤ n :=
      Nat.le_trans (Nat.pow_le_pow_right (by decide) (Nat.sub_le ..)) (Nat.log2_self_le hn)
    have hwhole : n / Nat.pow 2 (n.log2 - 52) * Nat.pow 2 (n.log2 - 52) ≤ n :=
      Nat.div_mul_le_self ..
    dsimp only
    split
    · rw [Nat.add_mul, Nat.one_mul]
      omega
    · omega

/-- The exponents are variables, so that no power of two is ever worked out. -/
theorem lt_limit
    {value k bits top : Nat} (h : value < 2 ^ k) (hk : k + bits < top) :
    value < limit bits top := by
  apply Nat.lt_sub_of_add_lt
  have hunit : 2 ^ k ≤ 2 ^ (top - bits - 1) :=
    Nat.pow_le_pow_right (by decide) (by omega)
  calc
    value + 2 ^ (top - bits - 1) < 2 ^ (top - bits - 1) + 2 ^ (top - bits - 1) :=
      Nat.add_lt_add_right (Nat.lt_of_lt_of_le h hunit) _
    _ = 2 ^ (top - bits - 1 + 1) := (Nat.two_pow_succ _).symm
    _ ≤ 2 ^ top := Nat.pow_le_pow_right (by decide) (by omega)

theorem lt_doubleLimit
    {value : Nat} (h : value < 2 ^ 65) :
    value < doubleLimit :=
  lt_limit h (by decide)

theorem isTooLarge_natural
    {n : Nat} (h : n < 2 ^ 64) :
    isTooLarge ⟨false, Nat.toDigits 10 n, [], 0, true⟩ = false := by
  have hvalue : Nat.ofDigitChars 10 (Nat.toDigits 10 n) 0 = n :=
    Nat.ofDigitChars_toDigits (by decide) (by decide)
  have hleading : leading 0 (Nat.toDigits 10 n) = (n, 0) := by
    rw [leading_of_lt (by rwa [hvalue]), hvalue]
  have hone : roundTo53Bits 1 = 1 := rfl
  have hlimit : roundTo53Bits n < doubleLimit :=
    lt_doubleLimit (Nat.lt_of_le_of_lt (roundTo53Bits_le n) (by omega))
  simpa [isTooLarge, hleading, hone] using fun _ => hlimit

end Numeral

namespace Json

theorem number?_toDigits
    {n : Nat} (h : n < 2 ^ 64) :
    number? (Nat.toDigits 10 n) = some (.natural n) := by
  simp [number?, Numeral.ofChars?_toDigits, Numeral.isTooLarge_natural h,
    Numeral.digitsValue_toDigits]

end Json
end Counterpart
