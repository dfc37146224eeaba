import DecimalCalculator.Decimal.Truncation
import DecimalCalculator.Proofs.Decimal.Rational
import Mathlib.Data.Rat.Floor

/-!
# Integer parts

The integer part of a decimal is its number, cut toward zero. It is found by counting digits first,
and the count alone decides where it can: an integer of more than nineteen digits is no word, and
a decimal with fewer digits than decimals lies between minus one and one. Elsewhere the mantissa
is divided, and the division cuts toward zero as well.
-/

namespace DecimalCalculator

/-- The integer part of a number, cut toward zero. -/
def truncation (number : ℚ) : ℤ :=
  if 0 ≤ number then ⌊number⌋ else ⌈number⌉

@[simp]
theorem truncation_intCast (integer : ℤ) : truncation integer = integer := by
  simp [truncation]

theorem truncation_neg (number : ℚ) : truncation (-number) = -truncation number := by
  rcases lt_trichotomy number 0 with negative | rfl | positive
  · rw [truncation, if_pos (by linarith), truncation, if_neg (by linarith), Int.floor_neg]
  · simp [truncation]
  · rw [truncation, if_neg (by linarith), truncation, if_pos positive.le, Int.ceil_neg]

theorem truncation_nonneg {number : ℚ} (nonnegative : 0 ≤ number) : 0 ≤ truncation number := by
  rw [truncation, if_pos nonnegative]
  exact Int.floor_nonneg.2 nonnegative

theorem truncation_nonpos {number : ℚ} (negative : number < 0) : truncation number ≤ 0 := by
  rw [truncation, if_neg negative.not_ge]
  exact Int.ceil_le.2 (by exact_mod_cast negative.le)

/-- The division that cuts toward zero gives the integer part of the exact quotient. -/
theorem truncation_div (numerator : ℤ) (denominator : ℕ) :
    truncation ((numerator : ℚ) / denominator) = numerator.tdiv denominator := by
  have natural (magnitude : ℕ) :
      truncation ((magnitude : ℚ) / denominator) = (magnitude : ℤ).tdiv denominator := by
    rw [truncation, if_pos (by positivity), Rat.floor_natCast_div_natCast]
    rfl
  rcases Int.natAbs_eq numerator with same | opposite
  · rw [same]
    exact natural numerator.natAbs
  · rw [opposite, Int.cast_neg, Int.cast_natCast, neg_div, truncation_neg, natural, Int.neg_tdiv]

namespace Decimal

variable {value : Decimal}

theorem word?_zero : word? 0 = some 0 := by
  decide

theorem word?_of_long {number : ℤ} (long : tenTo wordDigits ≤ number.natAbs) :
    word? number = none := by
  have bound : twoTo 63 < tenTo wordDigits := by decide
  rw [word?, if_neg (by omega)]

theorem cast_twoTo_wordSize : ((twoTo 63 : ℕ) : ℤ) = 2 ^ 63 :=
  rfl

theorem word?_eq_some_iff {number word : ℤ} :
    word? number = some word ↔ number = word ∧ -2 ^ 63 ≤ word ∧ word ≤ 2 ^ 63 - 1 := by
  rw [word?, cast_twoTo_wordSize]
  split
  · simp only [Option.some.injEq]
    omega
  · simp only [reduceCtorEq, false_iff]
    omega

theorem word?_eq_none_iff {number : ℤ} :
    word? number = none ↔ number < -2 ^ 63 ∨ 2 ^ 63 - 1 < number := by
  rw [word?, cast_twoTo_wordSize]
  split
  · simp only [reduceCtorEq, false_iff]
    omega
  · simp only [true_iff]
    omega

theorem integerPart?_of_integral (integral : value.scale ≤ 0) :
    value.integerPart? = word? (value.mantissa * tenTo value.scale.natAbs) := by
  rw [integerPart?, if_pos integral]
  split
  next zero =>
    rw [isZero, beq_iff_eq] at zero
    rw [zero, zero_mul, word?_zero]
  next nonzero =>
    split
    next long =>
      rw [isZero, beq_iff_eq] at nonzero
      have digits := tenTo_digitCount_pred_le (Int.natAbs_pos.2 nonzero)
      rw [word?_of_long]
      rw [Int.natAbs_mul, Int.natAbs_natCast]
      calc
        tenTo wordDigits ≤ tenTo (value.digits - 1 + value.scale.natAbs) :=
          tenTo_le_tenTo (by omega)
        _ = tenTo (value.digits - 1) * tenTo value.scale.natAbs := pow_add 10 _ _
        _ ≤ value.mantissa.natAbs * tenTo value.scale.natAbs := Nat.mul_le_mul_right _ digits
    next => rfl

theorem integerPart?_of_fractional (fractional : ¬value.scale ≤ 0) :
    value.integerPart? = word? (value.mantissa.tdiv (tenTo value.scale.natAbs)) := by
  rw [integerPart?, if_neg fractional]
  split
  next small =>
    have magnitude : value.mantissa.natAbs < tenTo value.scale.natAbs :=
      Nat.lt_of_lt_of_le (lt_tenTo_digitCount _) (tenTo_le_tenTo small.le)
    have quotient : value.mantissa.tdiv (tenTo value.scale.natAbs) = 0 := by
      rw [← Int.natAbs_eq_zero, Int.natAbs_tdiv, Int.natAbs_natCast]
      exact Nat.div_eq_of_lt magnitude
    rw [quotient, word?_zero]
  next => rfl

/-- The integer part of a decimal is that of its number, if it fits into a word. -/
theorem integerPart?_eq (value : Decimal) :
    value.integerPart? = word? (truncation value.toRat) := by
  by_cases integral : value.scale ≤ 0
  · rw [integerPart?_of_integral integral, toRat_of_scale_nonpos integral, truncation_intCast]
  · rw [integerPart?_of_fractional integral, toRat_of_scale_nonneg (by omega), truncation_div]

/-- A decimal has an integer part exactly if its number, cut toward zero, is a signed word of 64 bits,
and then the integer part is this word. The scale and the number of digits do not matter. -/
theorem integerPart?_iff_truncation (value : Decimal) :
    (∀ integer, value.integerPart? = some integer ↔
        truncation value.toRat = integer ∧ -2 ^ 63 ≤ integer ∧ integer ≤ 2 ^ 63 - 1) ∧
      (value.integerPart? = none ↔
        truncation value.toRat < -2 ^ 63 ∨ 2 ^ 63 - 1 < truncation value.toRat) := by
  rw [integerPart?_eq]
  exact ⟨fun _ => word?_eq_some_iff, word?_eq_none_iff⟩

end Decimal

end DecimalCalculator
