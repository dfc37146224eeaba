import DecimalCalculator.Proofs.Decimal.Rational
import Mathlib.Algebra.Order.Archimedean.Basic
import Mathlib.Algebra.Order.Field.Power
import Mathlib.Algebra.Ring.Int.Parity
import Mathlib.Tactic.Linarith
import Mathlib.Tactic.Positivity

/-!
# Rounding goes to the nearest number

A number of a given order has, for every number of significant digits, a unit: the place of the last
digit that is kept. Rounding takes the number to the nearest multiple of this unit, and to the even
one of two that are equally near. There is only one such multiple, so what a decimal is rounded to
depends on its number and not on the way it is written.

A quotient is rounded from an integer quotient with a digit put behind it that is neither zero nor
of any size to speak of. It rounds as the exact quotient does: between two neighbouring integers no
number is halfway between two multiples, because half the unit is an integer itself.
-/

namespace DecimalCalculator

/-! ## Nearest integers -/

/-- Whether an integer is nearest to a number, and even if another one is as near. -/
structure IsNearest (number : ℚ) (integer : ℤ) : Prop where
  near : |(integer : ℚ) - number| ≤ 1 / 2
  evenTie : |(integer : ℚ) - number| = 1 / 2 → Even integer

namespace IsNearest

variable {number : ℚ} {integer other : ℤ}

theorem of_eq (integer : ℤ) : IsNearest integer integer := by
  constructor <;> simp

theorem neg (nearest : IsNearest number integer) : IsNearest (-number) (-integer) := by
  have distance : |((-integer : ℤ) : ℚ) - -number| = |(integer : ℚ) - number| := by
    rw [Int.cast_neg, ← neg_sub', abs_neg]
  refine ⟨?_, ?_⟩
  · rw [distance]
    exact nearest.near
  · intro tie
    rw [distance] at tie
    exact (nearest.evenTie tie).neg

theorem le (nearest : IsNearest number integer) (otherNearest : IsNearest number other) :
    integer ≤ other := by
  by_contra greater
  have near := abs_le.1 nearest.near
  have otherNear := abs_le.1 otherNearest.near
  -- Two integers in reach of one number are neighbours, and both are halfway to it.
  have next : integer = other + 1 := by
    have apart : (integer : ℚ) ≤ other + 1 := by linarith
    have bounded : integer ≤ other + 1 := by exact_mod_cast apart
    omega
  have above : (integer : ℚ) - number = 1 / 2 := by
    rw [next] at near ⊢
    push_cast at near ⊢
    linarith
  have below : (other : ℚ) - number = -(1 / 2) := by
    rw [next] at above
    push_cast at above
    linarith
  have isEven := nearest.evenTie (by rw [above]; norm_num)
  have otherEven := otherNearest.evenTie (by rw [below]; norm_num)
  rw [next, Int.even_add_one] at isEven
  exact isEven otherEven

/-- The nearest integers of two numbers are in the order of the numbers. -/
theorem mono {larger : ℚ} (nearest : IsNearest number integer)
    (largerNearest : IsNearest larger other) (ordered : number ≤ larger) : integer ≤ other := by
  rcases ordered.eq_or_lt with rfl | apart
  · exact nearest.le largerNearest
  · have near := abs_le.1 nearest.near
    have largerNear := abs_le.1 largerNearest.near
    have close : (integer : ℚ) < ((other + 1 : ℤ) : ℚ) := by
      push_cast
      linarith
    have close : integer < other + 1 := by exact_mod_cast close
    omega

theorem unique (nearest : IsNearest number integer) (otherNearest : IsNearest number other) :
    integer = other :=
  le_antisymm (nearest.le otherNearest) (otherNearest.le nearest)

/-- Numbers between the same two integers have the same nearest multiple of an even integer. -/
theorem between {quotient half : ℤ} {part otherPart : ℚ} (positive : 0 < half)
    (inside : 0 < part ∧ part < 1) (otherInside : 0 < otherPart ∧ otherPart < 1)
    (nearest : IsNearest ((quotient + part) / (2 * half)) integer) :
    IsNearest ((quotient + otherPart) / (2 * half)) integer := by
  have unit : (0 : ℚ) < 2 * half := by
    have : (0 : ℚ) < half := by exact_mod_cast positive
    linarith
  have scaled (number : ℚ) : (integer : ℚ) - number / (2 * half) =
      (integer * (2 * half) - number) / (2 * half) := by
    field_simp
  have near := abs_le.1 nearest.near
  rw [scaled, ← neg_div, div_le_div_iff₀ (by norm_num) unit, div_le_div_iff₀ unit (by norm_num)]
    at near
  -- The ends of the interval that rounds to the multiple are integers.
  have low : integer * (2 * half) - half ≤ quotient := by
    have : ((integer * (2 * half) - half : ℤ) : ℚ) < ((quotient + 1 : ℤ) : ℚ) := by
      push_cast
      linarith
    have : integer * (2 * half) - half < quotient + 1 := by exact_mod_cast this
    omega
  have high : quotient + 1 ≤ integer * (2 * half) + half := by
    have : (quotient : ℚ) < ((integer * (2 * half) + half : ℤ) : ℚ) := by
      push_cast
      linarith
    have : quotient < integer * (2 * half) + half := by exact_mod_cast this
    omega
  have low : (integer : ℚ) * (2 * half) - half ≤ quotient := by exact_mod_cast low
  have high : (quotient : ℚ) + 1 ≤ integer * (2 * half) + half := by exact_mod_cast high
  have strict : |(integer : ℚ) - (quotient + otherPart) / (2 * half)| < 1 / 2 := by
    rw [scaled, abs_lt, ← neg_div, div_lt_div_iff₀ (by norm_num) unit,
      div_lt_div_iff₀ unit (by norm_num)]
    constructor <;> linarith
  exact ⟨strict.le, fun tie => absurd tie strict.ne⟩

end IsNearest

/-- A quotient is an integer and a part that is left over. -/
theorem cast_div_add_cast_mod (numerator : ℕ) {denominator : ℕ} (positive : 0 < denominator) :
    ((numerator / denominator : ℕ) : ℚ) + (numerator % denominator : ℕ) / denominator =
      numerator / denominator := by
  have unit : (0 : ℚ) < denominator := by exact_mod_cast positive
  have division : (denominator : ℚ) * (numerator / denominator : ℕ) +
      (numerator % denominator : ℕ) = numerator := by
    exact_mod_cast Nat.div_add_mod numerator denominator
  rw [← division]
  field_simp

/-- The integer quotient to even is nearest to the exact one. -/
theorem isNearest_divideToEven (numerator : ℕ) {denominator : ℕ} (positive : 0 < denominator) :
    IsNearest ((numerator : ℚ) / denominator) (divideToEven numerator denominator) := by
  have unit : (0 : ℚ) < denominator := by exact_mod_cast positive
  have bound := Nat.mod_lt numerator positive
  rw [← cast_div_add_cast_mod numerator positive, divideToEven]
  generalize numerator / denominator = quotient
  generalize numerator % denominator = remainder at bound ⊢
  have part : (0 : ℚ) ≤ remainder / denominator := by positivity
  have partBelow : (remainder : ℚ) / denominator < 1 := by
    rw [div_lt_one unit]
    exact_mod_cast bound
  have small : (remainder : ℚ) / denominator ≤ 1 / 2 ↔ 2 * remainder ≤ denominator := by
    rw [div_le_div_iff₀ unit (by norm_num), one_mul, mul_comm]
    exact_mod_cast Iff.rfl
  have large : 1 / 2 ≤ (remainder : ℚ) / denominator ↔ denominator ≤ 2 * remainder := by
    rw [div_le_div_iff₀ (by norm_num) unit, one_mul, mul_comm (remainder : ℚ)]
    exact_mod_cast Iff.rfl
  split
  next up =>
    have distance : |((quotient + 1 : ℕ) : ℤ) - (quotient + (remainder : ℚ) / denominator)| =
        1 - remainder / denominator := by
      push_cast
      rw [abs_of_nonneg (by linarith)]
      ring
    refine ⟨?_, ?_⟩ <;> rw [distance]
    · have := large.2 (by omega)
      linarith
    · intro tie
      have := small.1 (by linarith)
      rw [Int.natCast_add, Int.natCast_one, Int.even_add_one, Int.not_even_iff]
      omega
  next stay =>
    have distance : |((quotient : ℕ) : ℤ) - (quotient + (remainder : ℚ) / denominator)| =
        remainder / denominator := by
      rw [Int.cast_natCast, sub_add_cancel_left, abs_neg, abs_of_nonneg part]
    refine ⟨?_, ?_⟩ <;> rw [distance]
    · exact small.2 (by omega)
    · intro tie
      have := large.1 tie.ge
      rw [Int.even_iff]
      omega

/-! ## Orders -/

/-- Whether a power of ten is the one just above a number. -/
structure HasOrder (number : ℚ) (order : ℤ) : Prop where
  reached : (10 : ℚ) ^ (order - 1) ≤ |number|
  below : |number| < (10 : ℚ) ^ order

namespace HasOrder

variable {number : ℚ} {order other : ℤ}

theorem ne_zero (hasOrder : HasOrder number order) : number ≠ 0 := by
  rintro rfl
  have positive : (0 : ℚ) < 10 ^ (order - 1) := by positivity
  have reached := hasOrder.reached
  rw [abs_zero] at reached
  exact absurd positive (not_lt.2 reached)

theorem neg (hasOrder : HasOrder number order) : HasOrder (-number) order := by
  constructor <;> rw [abs_neg]
  · exact hasOrder.reached
  · exact hasOrder.below

theorem mono {larger : ℚ} (hasOrder : HasOrder number order) (hasOther : HasOrder larger other)
    (ordered : |number| ≤ |larger|) : order ≤ other := by
  have powers : (10 : ℚ) ^ (order - 1) < 10 ^ other :=
    (hasOrder.reached.trans ordered).trans_lt hasOther.below
  have exponents := (zpow_lt_zpow_iff_right₀ (by norm_num)).1 powers
  omega

theorem unique (hasOrder : HasOrder number order) (hasOther : HasOrder number other) :
    order = other :=
  le_antisymm (hasOrder.mono hasOther le_rfl) (hasOther.mono hasOrder le_rfl)

end HasOrder

theorem exists_hasOrder {number : ℚ} (nonzero : number ≠ 0) : ∃ order, HasOrder number order := by
  rcases exists_mem_Ico_zpow (abs_pos.2 nonzero) (by norm_num : (1 : ℚ) < 10) with
    ⟨exponent, reached, below⟩
  refine ⟨exponent + 1, ?_, below⟩
  rwa [add_sub_cancel_right]

/-- A number between a natural number and the next one has its digits, moved by the exponent. -/
theorem hasOrder_between {quotient : ℕ} {part : ℚ} (positive : 0 < quotient)
    (inside : 0 ≤ part ∧ part < 1) (exponent : ℤ) :
    HasOrder ((quotient + part) * (10 : ℚ) ^ exponent) (digitCount quotient + exponent) := by
  have size : |(quotient + part) * (10 : ℚ) ^ exponent| =
      (quotient + part) * (10 : ℚ) ^ exponent := by
    apply abs_of_nonneg
    have := inside.1
    positivity
  have power : (0 : ℚ) < 10 ^ exponent := by positivity
  have digits := digitCount_pos quotient
  refine ⟨?_, ?_⟩
  · have split : (digitCount quotient : ℤ) + exponent - 1 =
        ((digitCount quotient - 1 : ℕ) : ℤ) + exponent := by omega
    rw [size, split, zpow_add₀ Decimal.ten_ne_zero, zpow_natCast]
    apply mul_le_mul_of_nonneg_right _ power.le
    have reached : ((tenTo (digitCount quotient - 1) : ℕ) : ℚ) ≤ quotient := by
      exact_mod_cast tenTo_digitCount_pred_le positive
    rw [Decimal.cast_tenTo] at reached
    linarith [inside.1]
  · rw [size, zpow_add₀ Decimal.ten_ne_zero, zpow_natCast]
    apply mul_lt_mul_of_pos_right _ power
    have below : (quotient : ℚ) + 1 ≤ (tenTo (digitCount quotient) : ℕ) := by
      exact_mod_cast lt_tenTo_digitCount quotient
    rw [Decimal.cast_tenTo] at below
    linarith [inside.2]

/-! ## Significant digits -/

/-- Whether a number is another one, rounded to significant digits: the nearest multiple of the
unit of the last digit kept, a half going to the even multiple. Zero stays zero. -/
inductive RoundsTo (precision : ℕ) : ℚ → ℚ → Prop
  | zero : RoundsTo precision 0 0
  | multiple {number : ℚ} {order index : ℤ} (hasOrder : HasOrder number order)
      (nearest : IsNearest (number / (10 : ℚ) ^ (order - precision)) index) :
      RoundsTo precision number (index * (10 : ℚ) ^ (order - precision))

/-- The largest error of rounding to so many digits, in proportion to the number. -/
def roundingError (precision : ℕ) : ℚ :=
  (10 : ℚ) ^ (1 - (precision : ℤ)) / 2

theorem roundingError_nonneg (precision : ℕ) : 0 ≤ roundingError precision := by
  rw [roundingError]
  positivity

namespace RoundsTo

variable {precision : ℕ} {number rounded other : ℚ}

theorem unique (rounds : RoundsTo precision number rounded)
    (otherRounds : RoundsTo precision number other) : rounded = other := by
  cases rounds with
  | zero =>
      cases otherRounds with
      | zero => rfl
      | multiple hasOrder nearest => exact absurd rfl hasOrder.ne_zero
  | multiple hasOrder nearest =>
      cases otherRounds with
      | zero => exact absurd rfl hasOrder.ne_zero
      | multiple hasOther otherNearest =>
          cases hasOrder.unique hasOther
          rw [nearest.unique otherNearest]

theorem neg (rounds : RoundsTo precision number rounded) :
    RoundsTo precision (-number) (-rounded) := by
  cases rounds with
  | zero =>
      rw [neg_zero]
      exact .zero
  | @multiple number order index hasOrder nearest =>
      have opposite := nearest.neg
      rw [← neg_div] at opposite
      rw [← neg_mul, ← Int.cast_neg]
      exact .multiple hasOrder.neg opposite

theorem neg_left_iff :
    RoundsTo precision (-number) rounded ↔ RoundsTo precision number (-rounded) := by
  constructor <;> intro rounds
  · simpa using rounds.neg
  · simpa using rounds.neg

theorem exists_multiple {order : ℤ} (rounds : RoundsTo precision number rounded)
    (hasOrder : HasOrder number order) :
    ∃ index : ℤ, IsNearest (number / (10 : ℚ) ^ (order - precision)) index ∧
      rounded = index * (10 : ℚ) ^ (order - precision) := by
  cases rounds with
  | zero => exact absurd rfl hasOrder.ne_zero
  | multiple hasOther nearest =>
      cases hasOrder.unique hasOther
      exact ⟨_, nearest, rfl⟩

/-- A rounded number is a multiple of the unit, half a unit away at most, and an even multiple if it
is half a unit away. -/
theorem exists_multiple_near {order : ℤ} (rounds : RoundsTo precision number rounded)
    (hasOrder : HasOrder number order) :
    ∃ index : ℤ, rounded = index * (10 : ℚ) ^ (order - precision) ∧
      |rounded - number| ≤ (10 : ℚ) ^ (order - precision) / 2 ∧
      (|rounded - number| = (10 : ℚ) ^ (order - precision) / 2 → Even index) := by
  rcases rounds.exists_multiple hasOrder with ⟨index, nearest, rfl⟩
  have unit : (0 : ℚ) < 10 ^ (order - precision) := by positivity
  have distance : |index * (10 : ℚ) ^ (order - precision) - number| =
      |index - number / (10 : ℚ) ^ (order - precision)| * (10 : ℚ) ^ (order - precision) := by
    rw [← abs_of_pos unit, ← abs_mul, abs_of_pos unit, sub_mul, div_mul_cancel₀ _ unit.ne']
  rw [distance]
  refine ⟨index, rfl, ?_, ?_⟩
  · have near := mul_le_mul_of_nonneg_right nearest.near unit.le
    linarith
  · intro tie
    apply nearest.evenTie
    apply mul_right_cancel₀ unit.ne'
    linarith

/-- Half a unit of the last digit kept, as a part of the number. -/
theorem abs_sub_le (rounds : RoundsTo precision number rounded) :
    |rounded - number| ≤ roundingError precision * |number| := by
  rcases eq_or_ne number 0 with rfl | nonzero
  · cases rounds with
    | zero => simp
    | multiple hasOrder nearest => exact absurd rfl hasOrder.ne_zero
  rcases exists_hasOrder nonzero with ⟨order, hasOrder⟩
  rcases rounds.exists_multiple_near hasOrder with ⟨index, -, near, -⟩
  have unit : (10 : ℚ) ^ (order - precision) =
      (10 : ℚ) ^ (1 - (precision : ℤ)) * (10 : ℚ) ^ (order - 1) := by
    rw [← zpow_add₀ Decimal.ten_ne_zero]
    congr 1
    ring
  calc
    |rounded - number| ≤ (10 : ℚ) ^ (order - precision) / 2 := near
    _ = roundingError precision * (10 : ℚ) ^ (order - 1) := by rw [unit, roundingError]; ring
    _ ≤ roundingError precision * |number| :=
      mul_le_mul_of_nonneg_left hasOrder.reached (roundingError_nonneg precision)

/-- All numbers between two neighbouring integers round alike if the integers have at least two
digits more than are kept. -/
theorem between {quotient : ℕ} {part otherPart : ℚ} {exponent : ℤ}
    (long : precision + 2 ≤ digitCount quotient) (inside : 0 < part ∧ part < 1)
    (otherInside : 0 < otherPart ∧ otherPart < 1)
    (rounds : RoundsTo precision ((quotient + part) * (10 : ℚ) ^ exponent) rounded) :
    RoundsTo precision ((quotient + otherPart) * (10 : ℚ) ^ exponent) rounded := by
  have positive : 0 < quotient := by
    apply Nat.pos_of_ne_zero
    rintro rfl
    have single : digitCount 0 = 1 := rfl
    omega
  have hasOrder := hasOrder_between positive ⟨inside.1.le, inside.2⟩ exponent
  have hasOther := hasOrder_between positive ⟨otherInside.1.le, otherInside.2⟩ exponent
  rcases Nat.exists_eq_add_of_le long with ⟨more, digits⟩
  have half : (0 : ℤ) < 5 * 10 ^ (more + 1) := by positivity
  have power : (10 : ℚ) ^ exponent ≠ 0 := zpow_ne_zero _ Decimal.ten_ne_zero
  -- The unit is an even number of the places in which the integers are counted.
  have unit : (10 : ℚ) ^ (digitCount quotient + exponent - precision : ℤ) =
      2 * ((5 * 10 ^ (more + 1) : ℤ) : ℚ) * 10 ^ exponent := by
    have places : (digitCount quotient + exponent - precision : ℤ) =
        ((more + 2 : ℕ) : ℤ) + exponent := by omega
    rw [places, zpow_add₀ Decimal.ten_ne_zero, zpow_natCast]
    push_cast
    ring
  rcases rounds.exists_multiple hasOrder with ⟨index, nearest, rfl⟩
  rw [unit, mul_div_mul_right _ _ power] at nearest
  have otherNearest := IsNearest.between half inside otherInside nearest
  rw [← mul_div_mul_right _ _ power, ← unit] at otherNearest
  exact .multiple hasOther otherNearest

end RoundsTo

namespace Decimal

variable {value : Decimal}

/-! ## Rounding decimals -/

theorem hasOrder_toRat (nonzero : ¬value.isZero) : HasOrder value.toRat value.order := by
  induction value using sign_induction with
  | natural magnitude scale =>
      have inside := hasOrder_between (pos_of_not_isZero nonzero) ⟨le_refl 0, zero_lt_one⟩ (-scale)
      rw [add_zero] at inside
      exact inside
  | opposite value ih =>
      rw [isZero_neg] at nonzero
      rw [toRat_neg, order, digits_neg]
      exact (ih nonzero).neg

theorem toRat_div_unit (precision : ℕ) (value : Decimal) :
    value.toRat / (10 : ℚ) ^ (value.order - precision) =
      value.mantissa * (10 : ℚ) ^ ((precision : ℤ) - value.digits) := by
  rw [toRat, div_eq_mul_inv, ← zpow_neg, mul_assoc, ← zpow_add₀ ten_ne_zero, order]
  congr 2
  ring

/-- A decimal that is short enough is a multiple of the unit. -/
theorem roundsTo_of_short {precision : ℕ} (nonzero : ¬value.isZero)
    (short : value.digits ≤ precision) : RoundsTo precision value.toRat value.toRat := by
  have scaled := toRat_div_unit precision value
  have places : (10 : ℚ) ^ ((precision : ℤ) - value.digits) =
      ((10 ^ (precision - value.digits) : ℤ) : ℚ) := by
    rw [← Nat.cast_sub short, zpow_natCast]
    push_cast
    rfl
  rw [places, ← Int.cast_mul] at scaled
  have unit : (10 : ℚ) ^ (value.order - precision) ≠ 0 := zpow_ne_zero _ ten_ne_zero
  have nearest := IsNearest.of_eq (value.mantissa * 10 ^ (precision - value.digits))
  rw [← scaled] at nearest
  have rounds := RoundsTo.multiple (hasOrder_toRat nonzero) nearest
  rwa [← scaled, div_mul_cancel₀ _ unit] at rounds

/-- A long natural mantissa is divided by the power of ten that is too much. -/
theorem round_natCast {precision magnitude : ℕ} (positive : 0 < magnitude)
    (long : precision < digitCount magnitude) (scale : ℤ) :
    round precision ⟨magnitude, scale⟩ =
      ⟨divideToEven magnitude (tenTo (digitCount magnitude - precision)),
        scale - ((digitCount magnitude - precision : ℕ) : ℤ)⟩ := by
  have digits : (⟨magnitude, scale⟩ : Decimal).digits = digitCount magnitude := rfl
  rw [round, digits, if_neg (Nat.not_le_of_lt long)]
  simp only [Int.sign_natCast_of_ne_zero positive.ne', one_mul, Int.natAbs_natCast]

theorem roundsTo_of_long {precision : ℕ} (nonzero : ¬value.isZero)
    (long : precision < value.digits) :
    RoundsTo precision value.toRat (value.round precision).toRat := by
  induction value using sign_induction with
  | opposite value ih =>
      rw [isZero_neg] at nonzero
      rw [digits_neg] at long
      rw [round_neg, toRat_neg, toRat_neg]
      exact (ih nonzero long).neg
  | natural magnitude scale =>
      have long : precision < digitCount magnitude := long
      have scaled : toRat ⟨magnitude, scale⟩ / (10 : ℚ) ^ (order ⟨magnitude, scale⟩ - precision) =
          magnitude * (10 : ℚ) ^ ((precision : ℤ) - digitCount magnitude) :=
        toRat_div_unit precision ⟨magnitude, scale⟩
      have places : (10 : ℚ) ^ ((precision : ℤ) - digitCount magnitude) =
          ((tenTo (digitCount magnitude - precision) : ℕ) : ℚ)⁻¹ := by
        rw [cast_tenTo, ← zpow_natCast, ← zpow_neg, Nat.cast_sub long.le, neg_sub]
      have nearest := isNearest_divideToEven magnitude
        (tenTo_pos (digitCount magnitude - precision))
      rw [div_eq_mul_inv, ← places, ← scaled] at nearest
      have rounds := RoundsTo.multiple (hasOrder_toRat nonzero) nearest
      have exponent : order ⟨magnitude, scale⟩ - precision =
          -(scale - ((digitCount magnitude - precision : ℕ) : ℤ)) := by
        simp only [order, digits, Int.natAbs_natCast]
        omega
      rw [exponent] at rounds
      rw [round_natCast (pos_of_not_isZero nonzero) long]
      exact rounds

/-- A decimal is rounded to the nearest number of so many digits. -/
theorem roundsTo_round (precision : ℕ) (value : Decimal) :
    RoundsTo precision value.toRat (value.round precision).toRat := by
  by_cases zero : value.isZero
  · have rounded : (value.round precision).isZero := by
      rw [isZero, beq_iff_eq] at zero ⊢
      rw [round]
      split <;> simp [zero]
    rw [toRat_of_isZero zero, toRat_of_isZero rounded]
    exact .zero
  · by_cases short : value.digits ≤ precision
    · rw [round_of_digits_le short]
      exact roundsTo_of_short zero short
    · exact roundsTo_of_long zero (Nat.lt_of_not_le short)

end Decimal

end DecimalCalculator
