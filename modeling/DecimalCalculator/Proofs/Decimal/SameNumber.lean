import DecimalCalculator.Decimal.Factorial
import DecimalCalculator.Decimal.Power
import DecimalCalculator.Proofs.Decimal.Division
import DecimalCalculator.Proofs.Decimal.Truncation

/-!
# Decimals of one number

One number is written by many decimals, and the operations look at the writing: they count digits,
compare scales, recognise a one, drop zeros at the end. None of this reaches the numbers of the
results. Decimals of one number have the same sign, the same integer part and the same factorial,
and they are rounded, multiplied and raised to decimals of one number again.

For the operations that round this is so because the rounded number is determined by the exact
one. A power rounds after every product, so it is not determined in that way; its loop is followed
step by step.
-/

namespace DecimalCalculator.Decimal

/-- Whether two decimals stand for one number. -/
def SameNumber (value other : Decimal) : Prop :=
  value.toRat = other.toRat

/-! ## Trimming -/

theorem tenTo_trailingZeros_dvd (number : ℕ) : tenTo (trailingZeros number) ∣ number := by
  induction number using Nat.strong_induction_on with
  | h number ih =>
    by_cases last : number % 10 = 0
    · rcases Nat.eq_zero_or_pos number with rfl | positive
      · exact dvd_zero _
      · have split : number = number / 10 * 10 := by omega
        have front : 0 < number / 10 := by omega
        rw [split, trailingZeros_mul_ten front, tenTo_succ]
        exact Nat.mul_dvd_mul_right (ih (number / 10) (by omega)) 10
    · rw [trailingZeros_of_mod_ne_zero last]
      exact one_dvd number

@[simp]
theorem toRat_trimmed (value : Decimal) : value.trimmed.toRat = value.toRat := by
  rw [trimmed]
  split
  next zero => rw [toRat_of_isZero zero, toRat_of_isZero rfl]
  next nonzero =>
    have divides : (tenTo (trailingZeros value.mantissa.natAbs) : ℤ) ∣ value.mantissa :=
      Int.natCast_dvd.2 (tenTo_trailingZeros_dvd _)
    have unit : ((tenTo (trailingZeros value.mantissa.natAbs) : ℕ) : ℚ) ≠ 0 := by
      exact_mod_cast (tenTo_pos _).ne'
    simp only [toRat]
    rw [Int.tdiv_eq_ediv_of_dvd divides, Int.cast_div divides (by exact_mod_cast unit), neg_sub,
      sub_eq_add_neg, zpow_add₀ ten_ne_zero, zpow_natCast, Int.cast_natCast, ← cast_tenTo]
    field_simp

theorem toRat_mulTrimmed (left right : Decimal) :
    (left.mulTrimmed right).toRat = left.toRat * right.toRat := by
  rw [← toRat_mul, mulTrimmed, mul]
  split
  · exact toRat_trimmed right
  split
  · exact toRat_trimmed left
  · rfl

namespace SameNumber

variable {value other left otherLeft right otherRight : Decimal}

theorem refl (value : Decimal) : SameNumber value value :=
  Eq.refl value.toRat

theorem neg (same : SameNumber value other) : SameNumber value.neg other.neg := by
  rw [SameNumber, toRat_neg, toRat_neg, same]

theorem isZero_eq (same : SameNumber value other) : value.isZero = other.isZero := by
  rw [Bool.eq_iff_iff, ← toRat_eq_zero_iff, ← toRat_eq_zero_iff, same]

theorem isNegative_eq (same : SameNumber value other) : value.isNegative = other.isNegative := by
  rw [Bool.eq_iff_iff, isNegative_iff, isNegative_iff, same]

theorem integerPart?_eq (same : SameNumber value other) :
    value.integerPart? = other.integerPart? := by
  rw [Decimal.integerPart?_eq, Decimal.integerPart?_eq, same]

theorem factorial_eq (same : SameNumber value other) (context : Context) :
    value.factorial context = other.factorial context := by
  rw [factorial, factorial, same.integerPart?_eq, same.isNegative_eq]

theorem round (same : SameNumber value other) (precision : ℕ) :
    SameNumber (value.round precision) (other.round precision) := by
  have rounds := roundsTo_round precision value
  rw [same] at rounds
  exact rounds.unique (roundsTo_round precision other)

theorem mul (sameLeft : SameNumber left otherLeft) (sameRight : SameNumber right otherRight) :
    SameNumber (left.mul right) (otherLeft.mul otherRight) := by
  rw [SameNumber, toRat_mul, toRat_mul, sameLeft, sameRight]

theorem mulTrimmed (sameLeft : SameNumber left otherLeft)
    (sameRight : SameNumber right otherRight) :
    SameNumber (left.mulTrimmed right) (otherLeft.mulTrimmed otherRight) := by
  rw [SameNumber, toRat_mulTrimmed, toRat_mulTrimmed, sameLeft, sameRight]

/-- The loop of a power makes the same steps on all decimals of a number. -/
theorem powerLoop (sameAccumulator : SameNumber left otherLeft)
    (sameBase : SameNumber right otherRight) (precision exponent : ℕ) :
    SameNumber (powerLoop precision exponent left right)
      (powerLoop precision exponent otherLeft otherRight) := by
  induction exponent using Nat.strong_induction_on
    generalizing left otherLeft right otherRight with
  | h exponent ih =>
    rw [Decimal.powerLoop, Decimal.powerLoop]
    split
    next => exact sameAccumulator
    next positive =>
      have product := (sameAccumulator.mulTrimmed sameBase).round precision
      have square := (sameBase.mulTrimmed sameBase).round precision
      have smaller : exponent / 2 < exponent := by omega
      split
      next odd =>
        split
        · exact product
        · exact ih (exponent / 2) smaller product square
      next even =>
        split
        · exact sameAccumulator
        · exact ih (exponent / 2) smaller sameAccumulator square

end SameNumber

end DecimalCalculator.Decimal
