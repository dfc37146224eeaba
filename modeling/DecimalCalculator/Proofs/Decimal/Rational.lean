import DecimalCalculator.Decimal.Arithmetic
import Mathlib.Algebra.Order.Field.Power
import Mathlib.Algebra.Order.Field.Rat
import Mathlib.Tactic.FieldSimp
import Mathlib.Tactic.Positivity
import Mathlib.Tactic.Ring

/-!
# The values of decimals

A decimal stands for the rational number `mantissa / 10 ^ scale`, and many decimals stand for one
number. Opposites, sums, differences and products are exact: the number of the result is that of
the operands, whatever scales they are written with.

Two operations choose the scale of their result by a case distinction. A sum leaves out a term
zero, and a product leaves out a factor that is recognised as one. Both distinctions are lost on
the numbers.
-/

namespace DecimalCalculator.Decimal

/-- The number that a decimal stands for. -/
def toRat (value : Decimal) : ℚ :=
  value.mantissa * (10 : ℚ) ^ (-value.scale)

theorem ten_ne_zero : (10 : ℚ) ≠ 0 := by
  norm_num

theorem cast_tenTo (exponent : ℕ) : ((tenTo exponent : ℕ) : ℚ) = (10 : ℚ) ^ exponent := by
  change ((10 ^ exponent : ℕ) : ℚ) = _
  push_cast
  rfl

theorem toRat_natScale (mantissa : ℤ) (scale : ℕ) :
    toRat ⟨mantissa, scale⟩ = mantissa / (10 : ℚ) ^ scale := by
  simp [toRat, div_eq_mul_inv]

/-- A decimal whose scale is not positive is an integer. -/
theorem toRat_of_scale_nonpos {value : Decimal} (integral : value.scale ≤ 0) :
    value.toRat = ((value.mantissa * tenTo value.scale.natAbs : ℤ) : ℚ) := by
  have scale : -value.scale = (value.scale.natAbs : ℤ) := by omega
  rw [toRat, scale, zpow_natCast, Int.cast_mul, Int.cast_natCast, cast_tenTo]

theorem toRat_of_scale_nonneg {value : Decimal} (fractional : 0 ≤ value.scale) :
    value.toRat = (value.mantissa : ℚ) / (tenTo value.scale.natAbs : ℕ) := by
  have scale : value.scale = (value.scale.natAbs : ℤ) := by omega
  rw [toRat, scale, zpow_neg, zpow_natCast, ← scale, cast_tenTo, div_eq_mul_inv]

theorem toRat_of_isZero {value : Decimal} (zero : value.isZero) : value.toRat = 0 := by
  simp [toRat, isZero_iff.1 zero]

@[simp]
theorem toRat_neg (value : Decimal) : value.neg.toRat = -value.toRat := by
  simp [toRat, neg]

theorem toRat_eq_zero_iff {value : Decimal} : value.toRat = 0 ↔ value.isZero := by
  simp [toRat, isZero, zpow_ne_zero]

/-! ## Signs -/

@[simp]
theorem isZero_neg (value : Decimal) : value.neg.isZero = value.isZero := by
  simp [isZero, neg]

theorem isNegative_iff {value : Decimal} : value.isNegative ↔ value.toRat < 0 := by
  have power : (0 : ℚ) < 10 ^ (-value.scale) := by positivity
  rw [isNegative, decide_eq_true_eq, toRat, ← not_le, ← not_le, mul_nonneg_iff_of_pos_right power,
    Int.cast_nonneg_iff]

/-- What holds of decimals with a natural mantissa and goes over to opposites holds of all. -/
theorem sign_induction {motive : Decimal → Prop}
    (natural : ∀ (magnitude : ℕ) (scale : ℤ), motive ⟨magnitude, scale⟩)
    (opposite : ∀ value : Decimal, motive value → motive value.neg) (value : Decimal) :
    motive value := by
  have holds := natural value.mantissa.natAbs value.scale
  rcases Int.natAbs_eq value.mantissa with same | negative
  · rw [← same] at holds
    exact holds
  · have holds := opposite _ holds
    rw [neg, ← negative] at holds
    exact holds

theorem pos_of_not_isZero {magnitude : ℕ} {scale : ℤ}
    (nonzero : ¬(⟨magnitude, scale⟩ : Decimal).isZero) : 0 < magnitude := by
  simpa [isZero, Nat.pos_iff_ne_zero] using nonzero

/-! ## Sums -/

theorem toRat_mantissaAt (value : Decimal) {scale : ℤ} (finer : value.scale ≤ scale) :
    (value.mantissaAt scale : ℚ) * (10 : ℚ) ^ (-scale) = value.toRat := by
  have gap : (10 : ℚ) ^ (scale - value.scale).toNat = (10 : ℚ) ^ (scale - value.scale) := by
    rw [← zpow_natCast, Int.toNat_of_nonneg (by omega)]
  rw [mantissaAt, Int.cast_mul, Int.cast_natCast, cast_tenTo, gap, mul_assoc,
    ← zpow_add₀ ten_ne_zero, toRat]
  congr 2
  omega

theorem toRat_sum (left right : Decimal) : (sum left right).toRat = left.toRat + right.toRat := by
  rw [← toRat_mantissaAt left (le_max_left _ _), ← toRat_mantissaAt right (le_max_right _ _),
    ← add_mul]
  simp [sum, toRat]

/-- A sum that is not refused is exact. -/
theorem toRat_add {left right total : Decimal} (added : left.add right = .ok total) :
    total.toRat = left.toRat + right.toRat := by
  simp only [add] at added
  split at added
  next zero =>
    rw [← Except.ok.inj added, toRat_of_isZero zero, zero_add]
  split at added
  next zero =>
    rw [← Except.ok.inj added, toRat_of_isZero zero, add_zero]
  split at added
  · cases added
  · rw [← Except.ok.inj added, toRat_sum]

/-! ## Products -/

theorem toRat_of_isOne {value : Decimal} (one : value.isOne) : value.toRat = 1 := by
  simp only [isOne, Bool.and_eq_true, decide_eq_true_eq, beq_iff_eq] at one
  rcases one with ⟨⟨nonnegative, -⟩, mantissa⟩
  have scale : (10 : ℚ) ^ value.scale.toNat = (10 : ℚ) ^ value.scale := by
    rw [← zpow_natCast, Int.toNat_of_nonneg nonnegative]
  rw [toRat, mantissa, Int.cast_natCast, cast_tenTo, scale, ← zpow_add₀ ten_ne_zero]
  simp

theorem toRat_one : one.toRat = 1 :=
  toRat_of_isOne (by decide)

/-- A product is exact, also where a factor one leaves the other factor as it is written. -/
theorem toRat_mul (left right : Decimal) : (left.mul right).toRat = left.toRat * right.toRat := by
  simp only [mul]
  split
  next one => rw [toRat_of_isOne one, one_mul]
  split
  next one => rw [toRat_of_isOne one, mul_one]
  simp only [toRat, Int.cast_mul, neg_add, zpow_add₀ ten_ne_zero]
  ring

end DecimalCalculator.Decimal
