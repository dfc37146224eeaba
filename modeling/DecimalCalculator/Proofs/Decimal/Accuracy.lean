import DecimalCalculator.Proofs.Decimal.Scale
import DecimalCalculator.Proofs.Failure
import Mathlib.Algebra.Order.Ring.Pow
import Mathlib.Data.Sign.Basic

/-!
# The accuracy of powers

A power is rounded after every product, and each squaring doubles the error that is already there.
The errors are counted here, not added up: one rounding multiplies a number by a factor close to
one, a product multiplies the factors of its terms, and a reciprocal turns a factor over. So a
number that has gone through so many roundings differs from the exact one by so many factors.

The loop of a power keeps this count in step with its exponent. A base that carries `count` factors
puts `count + 1` of them on the accumulator for every time it is multiplied in, which comes to two
factors for each unit of the exponent in the end, whatever its binary digits are. The digits by
which the work is more precise than the context are as many as the exponent has and one more, and
so many factors stay below a tenth of a unit of the last digit kept. The last rounding adds half of
one.
-/

namespace DecimalCalculator

/-! ## Factors close to one -/

/-- Whether a number is another one times a factor that lies between `least` and its inverse. -/
def IsWithin (least exact number : ℚ) : Prop :=
  ∃ factor, least ≤ factor ∧ factor * least ≤ 1 ∧ number = exact * factor

namespace IsWithin

variable {least other exact number otherExact otherNumber : ℚ}

theorem refl (exact : ℚ) : IsWithin 1 exact exact :=
  ⟨1, le_refl 1, (mul_one 1).le, (mul_one exact).symm⟩

theorem mono (within : IsWithin least exact number) (nonnegative : 0 ≤ other)
    (smaller : other ≤ least) : IsWithin other exact number := by
  rcases within with ⟨factor, reached, bounded, rfl⟩
  have positive : 0 ≤ factor := nonnegative.trans (smaller.trans reached)
  exact ⟨factor, smaller.trans reached,
    (mul_le_mul_of_nonneg_left smaller positive).trans bounded, rfl⟩

theorem mul (within : IsWithin least exact number)
    (otherWithin : IsWithin other otherExact otherNumber)
    (positive : 0 < least) (otherPositive : 0 < other) :
    IsWithin (least * other) (exact * otherExact) (number * otherNumber) := by
  rcases within with ⟨factor, reached, bounded, rfl⟩
  rcases otherWithin with ⟨otherFactor, otherReached, otherBounded, rfl⟩
  have factorPositive : 0 < otherFactor := otherPositive.trans_le otherReached
  refine ⟨factor * otherFactor, ?_, ?_, by ring⟩
  · exact mul_le_mul reached otherReached otherPositive.le (positive.le.trans reached)
  · calc
      factor * otherFactor * (least * other) = factor * least * (otherFactor * other) := by ring
      _ ≤ 1 * 1 := mul_le_mul bounded otherBounded (by positivity) zero_le_one
      _ = 1 := one_mul 1

/-- A number close to one that is close to the exact one. -/
theorem trans (within : IsWithin least exact number) (further : IsWithin other number otherNumber)
    (positive : 0 < least) (otherPositive : 0 < other) :
    IsWithin (least * other) exact otherNumber := by
  rcases further with ⟨factor, reached, bounded, rfl⟩
  have step : IsWithin other 1 factor := ⟨factor, reached, bounded, (one_mul factor).symm⟩
  have product := within.mul step positive otherPositive
  rwa [mul_one] at product

/-- The bounds are turned over into each other. -/
theorem inv (within : IsWithin least exact number) (positive : 0 < least) :
    IsWithin least exact⁻¹ number⁻¹ := by
  rcases within with ⟨factor, reached, bounded, rfl⟩
  have factorPositive : 0 < factor := positive.trans_le reached
  refine ⟨factor⁻¹, ?_, ?_, by rw [mul_inv]⟩
  · rw [le_inv_comm₀ positive factorPositive, ← one_div, le_div_iff₀ positive]
    exact bounded
  · rw [inv_mul_le_one₀ factorPositive]
    exact reached

end IsWithin

/-! ## One rounding -/

/-- The least factor that rounding to so many digits puts on a number. -/
def leastFactor (precision : ℕ) : ℚ :=
  1 - roundingError precision

theorem roundingError_le_half {precision : ℕ} (keeps : 0 < precision) :
    roundingError precision ≤ 1 / 2 := by
  have power : (10 : ℚ) ^ (1 - (precision : ℤ)) ≤ 1 :=
    zpow_le_one_of_nonpos₀ (by norm_num) (by omega)
  rw [roundingError]
  linarith

theorem leastFactor_pos {precision : ℕ} (keeps : 0 < precision) : 0 < leastFactor precision := by
  have := roundingError_le_half keeps
  rw [leastFactor]
  linarith

theorem leastFactor_le_one (precision : ℕ) : leastFactor precision ≤ 1 := by
  have := roundingError_nonneg precision
  rw [leastFactor]
  linarith

namespace RoundsTo

variable {precision : ℕ} {number rounded : ℚ}

theorem exists_factor (rounds : RoundsTo precision number rounded) :
    ∃ factor, |factor - 1| ≤ roundingError precision ∧ rounded = number * factor := by
  rcases eq_or_ne number 0 with rfl | nonzero
  · cases rounds with
    | zero => exact ⟨1, by simpa using roundingError_nonneg precision, (mul_one 0).symm⟩
    | multiple hasOrder nearest => exact absurd rfl hasOrder.ne_zero
  refine ⟨rounded / number, ?_, (mul_div_cancel₀ rounded nonzero).symm⟩
  rw [← div_self nonzero, ← sub_div, abs_div, div_le_iff₀ (abs_pos.2 nonzero)]
  exact rounds.abs_sub_le

theorem isWithin (rounds : RoundsTo precision number rounded) (keeps : 0 < precision) :
    IsWithin (leastFactor precision) number rounded := by
  rcases rounds.exists_factor with ⟨factor, error, rfl⟩
  rw [abs_le] at error
  refine ⟨factor, ?_, ?_, rfl⟩
  · rw [leastFactor]
    linarith
  · calc
      factor * leastFactor precision ≤
          (1 + roundingError precision) * (1 - roundingError precision) :=
        mul_le_mul_of_nonneg_right (by linarith) (leastFactor_pos keeps).le
      _ ≤ 1 := by nlinarith [sq_nonneg (roundingError precision)]

end RoundsTo

/-! ## The loop of a power -/

namespace Decimal

variable {precision : ℕ} {left right accumulator base : Decimal} {exact leftExact rightExact : ℚ}

/-- A number that has gone through so many roundings. -/
def IsRoundedTimes (precision count : ℕ) (exact : ℚ) (value : Decimal) : Prop :=
  IsWithin (leastFactor precision ^ count) exact value.toRat

theorem isRoundedTimes_one (precision : ℕ) : IsRoundedTimes precision 0 1 one := by
  rw [IsRoundedTimes, pow_zero, toRat_one]
  exact .refl 1

theorem isRoundedTimes_round (keeps : 0 < precision) (value : Decimal) :
    IsRoundedTimes precision 1 value.toRat (value.round precision) := by
  rw [IsRoundedTimes, pow_one]
  exact (roundsTo_round precision value).isWithin keeps

namespace IsRoundedTimes

variable {count leftCount rightCount : ℕ}

/-- A rounded product has the factors of both terms and its own. -/
theorem mul (leftRounded : IsRoundedTimes precision leftCount leftExact left)
    (rightRounded : IsRoundedTimes precision rightCount rightExact right)
    (keeps : 0 < precision) :
    IsRoundedTimes precision (leftCount + rightCount + 1) (leftExact * rightExact)
      ((left.mulTrimmed right).round precision) := by
  have least := leastFactor_pos keeps
  have product := IsWithin.mul leftRounded rightRounded (pow_pos least _) (pow_pos least _)
  rw [← toRat_mulTrimmed, ← pow_add] at product
  rw [IsRoundedTimes, pow_succ]
  exact product.trans ((roundsTo_round precision _).isWithin keeps) (pow_pos least _) least

/-- One binary digit of the exponent puts the factors of the base and one more on the accumulator,
if the digit is one. -/
theorem accumulated (leftRounded : IsRoundedTimes precision leftCount leftExact left)
    (rightRounded : IsRoundedTimes precision rightCount rightExact right)
    (keeps : 0 < precision) (exponent : ℕ) :
    IsRoundedTimes precision (leftCount + exponent % 2 * (rightCount + 1))
      (leftExact * rightExact ^ (exponent % 2)) (accumulated precision exponent left right) := by
  rw [Decimal.accumulated]
  rcases Nat.mod_two_eq_zero_or_one exponent with even | odd
  · rw [even, if_neg Nat.zero_ne_one, Nat.zero_mul, Nat.add_zero, pow_zero, mul_one]
    exact leftRounded
  · rw [odd, if_pos rfl, Nat.one_mul, pow_one, ← Nat.add_assoc]
    exact leftRounded.mul rightRounded keeps

/-- The loop of a power puts the factors of the base and one more on the accumulator, as many times
as the exponent says. -/
theorem powerLoop (leftRounded : IsRoundedTimes precision leftCount leftExact left)
    (rightRounded : IsRoundedTimes precision rightCount rightExact right)
    (keeps : 0 < precision) (exponent : ℕ) :
    IsRoundedTimes precision (leftCount + exponent * (rightCount + 1))
      (leftExact * rightExact ^ exponent) (powerLoop precision exponent left right) := by
  induction exponent using Nat.strong_induction_on
    generalizing left right leftExact rightExact leftCount rightCount with
  | h exponent ih =>
    by_cases zero : exponent = 0
    · rw [Decimal.powerLoop, if_pos zero, zero, Nat.zero_mul, Nat.add_zero, pow_zero, mul_one]
      exact leftRounded
    have product := leftRounded.accumulated rightRounded keeps exponent
    rw [powerLoop_of_pos zero]
    split
    next last =>
      have single : exponent % 2 = exponent := by omega
      rwa [single] at product
    next more =>
      have square := rightRounded.mul rightRounded keeps
      have power := ih (exponent / 2) (by omega) product square
      have counts : leftCount + exponent % 2 * (rightCount + 1) +
          exponent / 2 * (rightCount + rightCount + 1 + 1) =
            leftCount + exponent * (rightCount + 1) := by
        rw [← mul_halves exponent (rightCount + 1)]
        ring
      rwa [counts, mul_assoc, pow_halves] at power

/-- A rounded reciprocal has the factors of the number and its own. -/
theorem reciprocal (rounded : IsRoundedTimes precision count exact left) (keeps : 0 < precision)
    (divided : one.div precision left = .ok right) :
    IsRoundedTimes precision (count + 1) exact⁻¹ right := by
  have least := leastFactor_pos keeps
  have rounds := roundsTo_div divided
  rw [toRat_one, one_div] at rounds
  rw [IsRoundedTimes, pow_succ]
  exact (IsWithin.inv rounded (pow_pos least _)).trans (rounds.isWithin keeps) (pow_pos least _)
    least

end IsRoundedTimes

/-! ## Powers -/

variable {context : Context} {result : Decimal} {exponent : ℤ}

/-- So many roundings at the precision of the work come to no more than a tenth of a unit of the last
digit that the context keeps. -/
theorem le_leastFactor_pow (kept exponent : ℕ) :
    1 - (10 : ℚ) ^ (-(kept : ℤ)) ≤
      leastFactor (kept + digitCount exponent + 1) ^ (2 * exponent + 1) := by
  have error : roundingError (kept + digitCount exponent + 1) =
      (10 : ℚ) ^ (-(kept : ℤ)) / (2 * (tenTo (digitCount exponent) : ℕ)) := by
    have places : 1 - ((kept + digitCount exponent + 1 : ℕ) : ℤ) =
        -(kept : ℤ) - digitCount exponent := by
      push_cast
      ring
    rw [roundingError, places, zpow_sub₀ ten_ne_zero, zpow_natCast, cast_tenTo, div_div, mul_comm]
  have count : ((2 * exponent + 1 : ℕ) : ℚ) ≤ 2 * (tenTo (digitCount exponent) : ℕ) := by
    have := lt_tenTo_digitCount exponent
    exact_mod_cast (by omega : 2 * exponent + 1 ≤ 2 * tenTo (digitCount exponent))
  have unit : (0 : ℚ) < 2 * (tenTo (digitCount exponent) : ℕ) := by
    exact_mod_cast Nat.mul_pos two_pos (tenTo_pos _)
  have total : ((2 * exponent + 1 : ℕ) : ℚ) * roundingError (kept + digitCount exponent + 1) ≤
      (10 : ℚ) ^ (-(kept : ℤ)) := by
    rw [error, ← mul_div_assoc, div_le_iff₀ unit, mul_comm]
    exact mul_le_mul_of_nonneg_left count (by positivity)
  have small := roundingError_le_half (Nat.succ_pos (kept + digitCount exponent))
  have bernoulli := one_add_mul_le_pow
    (by linarith : -2 ≤ -roundingError (kept + digitCount exponent + 1)) (2 * exponent + 1)
  rw [← sub_eq_add_neg, ← leastFactor] at bernoulli
  linarith

/-- What is left to round to the context after the loop of a power and its reciprocal. -/
theorem exists_working (passes : PassesGuards base exponent)
    (raised : base.pow context exponent = .ok result) :
    ∃ working : Decimal, result = working.round context.precision ∧
      IsWithin (1 - (10 : ℚ) ^ (-(context.precision : ℤ))) (base.toRat ^ exponent)
        working.toRat := by
  have workingKeeps := powerPrecision_pos context exponent
  have bound := le_leastFactor_pow context.precision exponent.natAbs
  have nonnegative : (0 : ℚ) ≤ 1 - 10 ^ (-(context.precision : ℤ)) :=
    sub_nonneg.2 (zpow_le_one_of_nonpos₀ (by norm_num) (by omega))
  have based := isRoundedTimes_round workingKeeps base
  have power := (isRoundedTimes_one _).powerLoop based workingKeeps exponent.natAbs
  have counts : 0 + exponent.natAbs * (1 + 1) = 2 * exponent.natAbs := by ring
  rw [counts, one_mul] at power
  rw [passes.pow_eq, lastStep] at raised
  split at raised
  next negative =>
    rcases map_eq_ok.1 raised with ⟨reciprocal, divided, rfl⟩
    have inverse := power.reciprocal workingKeeps divided
    have exact : (base.toRat ^ exponent.natAbs)⁻¹ = base.toRat ^ exponent := by
      have opposite : exponent = -(exponent.natAbs : ℤ) := by omega
      conv_rhs => rw [opposite, zpow_neg, zpow_natCast]
    rw [exact] at inverse
    exact ⟨reciprocal, rfl, inverse.mono nonnegative bound⟩
  next positive =>
    cases raised
    have exact : base.toRat ^ exponent.natAbs = base.toRat ^ exponent := by
      have same : exponent = (exponent.natAbs : ℤ) := by omega
      conv_rhs => rw [same, zpow_natCast]
    rw [exact] at power
    have fewer : leastFactor (powerPrecision context exponent) ^ (2 * exponent.natAbs + 1) ≤
        leastFactor (powerPrecision context exponent) ^ (2 * exponent.natAbs) :=
      pow_le_pow_of_le_one (leastFactor_pos workingKeeps).le (leastFactor_le_one _)
        (Nat.le_succ _)
    exact ⟨_, rfl, power.mono nonnegative (bound.trans fewer)⟩

end Decimal

/-- What the last rounding leaves of a number that the work has kept close to the exact one. -/
theorem IsWithin.exists_factor {share exact working rounded : ℚ} {precision : ℕ}
    (within : IsWithin (1 - share) exact working) (small : share ≤ 1 / 10)
    (rounds : RoundsTo precision working rounded) (last : roundingError precision = 5 * share) :
    ∃ factor, 0 < factor ∧ |factor - 1| ≤ 10 * share ∧ rounded = exact * factor := by
  rcases within with ⟨factor, reached, bounded, rfl⟩
  rcases rounds.exists_factor with ⟨lastFactor, error, rfl⟩
  rw [last, abs_le] at error
  have nonnegative : 0 ≤ share := by linarith
  have low : (1 - share) * (1 - 5 * share) ≤ factor * lastFactor :=
    mul_le_mul reached (by linarith) (by linarith) (by linarith)
  have high : factor * lastFactor ≤ 1 + 10 * share := by
    have positive : 0 < 1 - share := by linarith
    apply le_of_mul_le_mul_right _ positive
    calc
      factor * lastFactor * (1 - share) = factor * (1 - share) * lastFactor := by ring
      _ ≤ 1 * (1 + 5 * share) := mul_le_mul bounded (by linarith) (by linarith) zero_le_one
      _ ≤ (1 + 10 * share) * (1 - share) := by nlinarith
  refine ⟨factor * lastFactor, ?_, ?_, mul_assoc _ _ _⟩
  · nlinarith
  · rw [abs_le]
    constructor <;> nlinarith

namespace Decimal

variable {context : Context} {base result : Decimal} {exponent : ℤ}

/-- Powers are accurate. A power that is computed has the sign of the exact power, and it is off by
no more than a unit of the last digit that the context keeps, in proportion to the exact power. -/
theorem pow_accurate (keeps : 0 < context.precision)
    (raised : base.pow context exponent = .ok result) :
    SignType.sign result.toRat = SignType.sign (base.toRat ^ exponent) ∧
      |result.toRat - base.toRat ^ exponent| ≤
        (10 : ℚ) ^ (1 - (context.precision : ℤ)) * |base.toRat ^ exponent| := by
  rcases pow_eq_ok_cases raised with ⟨rfl, rfl⟩ | passes
  · rw [toRat_one, zpow_zero, sub_self, abs_zero]
    exact ⟨rfl, by positivity⟩
  rcases exists_working passes raised with ⟨working, rfl, within⟩
  have unit : (10 : ℚ) ^ (1 - (context.precision : ℤ)) =
      10 * (10 : ℚ) ^ (-(context.precision : ℤ)) := by
    rw [sub_eq_add_neg, zpow_add₀ ten_ne_zero, zpow_one]
  have small : (10 : ℚ) ^ (-(context.precision : ℤ)) ≤ 1 / 10 := by
    have power : (10 : ℚ) ^ (1 - (context.precision : ℤ)) ≤ 1 :=
      zpow_le_one_of_nonpos₀ (by norm_num) (by omega)
    linarith
  have last : roundingError context.precision = 5 * (10 : ℚ) ^ (-(context.precision : ℤ)) := by
    rw [roundingError, unit]
    ring
  rcases within.exists_factor small (roundsTo_round _ working) last with
    ⟨factor, positive, error, rounded⟩
  rw [rounded, unit]
  refine ⟨?_, ?_⟩
  · rw [sign_mul, sign_pos positive, mul_one]
  · have distance : base.toRat ^ exponent * factor - base.toRat ^ exponent =
        (factor - 1) * base.toRat ^ exponent := by ring
    rw [distance, abs_mul]
    exact mul_le_mul_of_nonneg_right error (abs_nonneg _)

/-- The largest exponent, with a minus sign: thirty squarings and a reciprocal, on a base below
one. -/
theorem pow_accurate_largest :
    0 < Context.default.precision ∧
      (⟨-7, 1⟩ : Decimal).pow Context.default (-999999999) =
        .ok ⟨-6773937874497807, -154901944⟩ ∧
      SignType.sign (toRat ⟨-6773937874497807, -154901944⟩) =
        SignType.sign (toRat ⟨-7, 1⟩ ^ (-999999999 : ℤ)) ∧
      |toRat ⟨-6773937874497807, -154901944⟩ - toRat ⟨-7, 1⟩ ^ (-999999999 : ℤ)| ≤
        (10 : ℚ) ^ (-15 : ℤ) * |toRat ⟨-7, 1⟩ ^ (-999999999 : ℤ)| := by
  have keeps : 0 < Context.default.precision := by decide
  have raised : (⟨-7, 1⟩ : Decimal).pow Context.default (-999999999) =
      .ok ⟨-6773937874497807, -154901944⟩ := by decide +kernel
  have places : 1 - ((Context.default.precision : ℕ) : ℤ) = -15 := by decide
  have accurate := pow_accurate keeps raised
  rw [places] at accurate
  exact ⟨keeps, raised, accurate⟩

end Decimal

end DecimalCalculator
