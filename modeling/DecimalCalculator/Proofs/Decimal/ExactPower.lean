import DecimalCalculator.Proofs.Decimal.Scale

/-!
# Powers without intermediate rounding

A power whose exact mantissa is no longer than the work is precise loses nothing before its last
rounding. This file lists the products that the loop of a power rounds and shows that all of them
are short enough to be kept as they are; so the loop multiplies exactly, and the power is the exact
power, rounded once.

The mantissas of the accumulator and of the base are never larger than the powers of the first
mantissa that they stand for, because a product that recognises a one only drops zeros. The
exponents of these powers stay below the whole exponent: what is still to be multiplied in is
counted with them. The squaring that would exceed it, after the last binary digit, is not made.
-/

namespace DecimalCalculator.Decimal

/-! ## The products that are rounded -/

/-- The product that one binary digit of the exponent makes, if the digit is one. -/
def accumulatedProducts (exponent : ℕ) (accumulator base : Decimal) : List Decimal :=
  if exponent % 2 = 1 then [accumulator.mulTrimmed base] else []

/-- The products that the loop of a power rounds, in the order of its steps. -/
def powerLoopProducts (precision exponent : ℕ) (accumulator base : Decimal) : List Decimal :=
  if exponent = 0 then []
  else if exponent / 2 = 0 then accumulatedProducts exponent accumulator base
  else
    accumulatedProducts exponent accumulator base ++ [base.mulTrimmed base] ++
      powerLoopProducts precision (exponent / 2) (accumulated precision exponent accumulator base)
        ((base.mulTrimmed base).round precision)
termination_by exponent

/-- The decimals that a power with a positive exponent rounds to the precision of its work: the base
and the products of the loop. -/
def powRounded (precision exponent : ℕ) (base : Decimal) : List Decimal :=
  base :: powerLoopProducts precision exponent one (base.round precision)

/-- The exact power, as a decimal that is not brought to another form. -/
def exactPower (base : Decimal) (exponent : ℕ) : Decimal :=
  ⟨base.mantissa ^ exponent, base.scale * exponent⟩

theorem toRat_exactPower (base : Decimal) (exponent : ℕ) :
    (base.exactPower exponent).toRat = base.toRat ^ exponent := by
  rw [exactPower, toRat, toRat, mul_pow, Int.cast_pow, ← zpow_natCast ((10 : ℚ) ^ _), ← zpow_mul,
    neg_mul]

/-! ## Sizes of mantissas -/

variable {precision total size : ℕ} {left right accumulator base : Decimal}

theorem natAbs_mantissa_trimmed_le (value : Decimal) :
    value.trimmed.mantissa.natAbs ≤ value.mantissa.natAbs := by
  rw [trimmed]
  split
  · exact Nat.zero_le _
  · exact Int.natAbs_tdiv_le_natAbs _ _

theorem one_le_natAbs_mantissa_of_isOne {value : Decimal} (isOne : value.isOne) :
    1 ≤ value.mantissa.natAbs := by
  simp only [Decimal.isOne, Bool.and_eq_true, beq_iff_eq] at isOne
  rw [isOne.2, Int.natAbs_natCast]
  exact tenTo_pos _

theorem natAbs_mantissa_mulTrimmed_le (left right : Decimal) :
    (left.mulTrimmed right).mantissa.natAbs ≤ left.mantissa.natAbs * right.mantissa.natAbs := by
  rw [mulTrimmed]
  split
  next isOne =>
    exact (natAbs_mantissa_trimmed_le right).trans
      (Nat.le_mul_of_pos_left _ (one_le_natAbs_mantissa_of_isOne isOne))
  split
  next isOne =>
    exact (natAbs_mantissa_trimmed_le left).trans
      (Nat.le_mul_of_pos_right _ (one_le_natAbs_mantissa_of_isOne isOne))
  · exact (Int.natAbs_mul _ _).le

/-- Whether the mantissa of a decimal is no larger than a power of the first one. -/
def IsPowerSized (size exponent : ℕ) (value : Decimal) : Prop :=
  value.mantissa.natAbs ≤ size ^ exponent

/-- What the work on a power asks: that powers of the first mantissa are short enough as far as
they are taken. -/
structure Fits (precision size total : ℕ) : Prop where
  positive : 0 < size
  short : digitCount (size ^ total) ≤ precision

namespace Fits

variable (fits : Fits precision size total)

include fits

/-- A decimal that is no larger than a power that fits is not rounded. -/
theorem round_eq {exponent : ℕ} {value : Decimal} (sized : IsPowerSized size exponent value)
    (within : exponent ≤ total) : value.round precision = value := by
  apply round_of_digits_le
  exact (digitCount_mono (sized.trans (Nat.pow_le_pow_right fits.positive within))).trans
    fits.short

/-- A product of decimals that are no larger than powers. -/
theorem mul {exponent otherExponent : ℕ} (leftSized : IsPowerSized size exponent left)
    (rightSized : IsPowerSized size otherExponent right)
    (within : exponent + otherExponent ≤ total) :
    IsPowerSized size (exponent + otherExponent) (left.mulTrimmed right) ∧
      (left.mulTrimmed right).round precision = left.mulTrimmed right := by
  have sized : IsPowerSized size (exponent + otherExponent) (left.mulTrimmed right) := by
    rw [IsPowerSized, Nat.pow_add]
    exact (natAbs_mantissa_mulTrimmed_le left right).trans (Nat.mul_le_mul leftSized rightSized)
  exact ⟨sized, fits.round_eq sized within⟩

/-- One binary digit of the exponent is multiplied in exactly. -/
theorem accumulated {reached step exponent : ℕ} (leftSized : IsPowerSized size reached left)
    (rightSized : IsPowerSized size step right) (within : reached + exponent % 2 * step ≤ total) :
    IsPowerSized size (reached + exponent % 2 * step)
        (accumulated precision exponent left right) ∧
      (Decimal.accumulated precision exponent left right).toRat =
        left.toRat * right.toRat ^ (exponent % 2) ∧
      ∀ product ∈ accumulatedProducts exponent left right, product.round precision = product := by
  rw [Decimal.accumulated, accumulatedProducts]
  rcases Nat.mod_two_eq_zero_or_one exponent with even | odd
  · rw [even, if_neg Nat.zero_ne_one, if_neg Nat.zero_ne_one, Nat.zero_mul, Nat.add_zero, pow_zero,
      mul_one]
    exact ⟨leftSized, rfl, by simp⟩
  · rw [odd, Nat.one_mul] at within
    rcases fits.mul leftSized rightSized within with ⟨sized, kept⟩
    rw [odd, if_pos rfl, if_pos rfl, Nat.one_mul, pow_one, kept, toRat_mulTrimmed]
    exact ⟨sized, rfl, List.forall_mem_singleton.2 kept⟩

/-- The loop of a power is exact as long as what it has reached and what is still to be multiplied
in fit. -/
theorem powerLoop {reached step exponent : ℕ} (leftSized : IsPowerSized size reached left)
    (rightSized : IsPowerSized size step right) (within : reached + exponent * step ≤ total) :
    (powerLoop precision exponent left right).toRat = left.toRat * right.toRat ^ exponent ∧
      ∀ product ∈ powerLoopProducts precision exponent left right,
        product.round precision = product := by
  induction exponent using Nat.strong_induction_on generalizing left right reached step with
  | h exponent ih =>
    by_cases zero : exponent = 0
    · rw [Decimal.powerLoop, powerLoopProducts, if_pos zero, if_pos zero, zero, pow_zero, mul_one]
      exact ⟨rfl, by simp⟩
    have halves := mul_halves exponent step
    have here : reached + exponent % 2 * step ≤ total := by omega
    rcases fits.accumulated leftSized rightSized here with ⟨product, value, kept⟩
    rw [powerLoop_of_pos zero, powerLoopProducts, if_neg zero]
    split
    next last =>
      have single : exponent % 2 = exponent := by omega
      rw [single] at value
      exact ⟨value, kept⟩
    next more =>
      have twice : step + step ≤ exponent / 2 * (step + step) :=
        Nat.le_mul_of_pos_left _ (Nat.pos_of_ne_zero more)
      rcases fits.mul rightSized rightSized (by omega) with ⟨square, squareKept⟩
      rw [← squareKept] at square
      rcases ih (exponent / 2) (by omega) product square (by omega) with ⟨power, further⟩
      refine ⟨?_, ?_⟩
      · rw [power, value, squareKept, toRat_mulTrimmed, mul_assoc, pow_halves]
      · rw [List.forall_mem_append, List.forall_mem_append, List.forall_mem_singleton]
        exact ⟨⟨kept, squareKept⟩, further⟩

end Fits

/-! ## Powers -/

variable {context : Context} {exponent : ℕ}

/-- Powers that fit are correctly rounded. Where the exact mantissa of a power has no more digits
than the work on it keeps, none of the decimals on the way is changed by its rounding, and the
power, if it exceeds no bound, is the exact power rounded once. So it is the exact power itself
wherever that has no more digits than the context keeps. -/
theorem pow_of_fitting (nonzero : ¬base.isZero) (positive : 0 < exponent)
    (fits : digitCount (base.mantissa.natAbs ^ exponent) ≤
      context.precision + digitCount exponent + 1)
    (accepted : ∀ bound, base.pow context exponent ≠ .error (.excess bound)) :
    (∀ value ∈ powRounded (context.precision + digitCount exponent + 1) exponent base,
        value.round (context.precision + digitCount exponent + 1) = value) ∧
      ∃ result, base.pow context exponent = .ok result ∧
        result.toRat = ((base.exactPower exponent).round context.precision).toRat ∧
        ∀ short : Decimal, short.digits ≤ context.precision →
          short.toRat = base.toRat ^ exponent → result.toRat = base.toRat ^ exponent := by
  have passes := passesGuards_of_accepted (Int.natCast_ne_zero.2 positive.ne') accepted
  have mantissa : base.mantissa ≠ 0 := by simpa [isZero] using nonzero
  have working : Fits (context.precision + digitCount exponent + 1) base.mantissa.natAbs exponent :=
    ⟨Int.natAbs_pos.2 mantissa, fits⟩
  have baseSized : IsPowerSized base.mantissa.natAbs 1 base := (pow_one _).ge
  have baseKept := working.round_eq baseSized positive
  have oneSized : IsPowerSized base.mantissa.natAbs 0 one := (pow_zero _).ge
  have within : 0 + exponent * 1 ≤ exponent := by omega
  rcases working.powerLoop oneSized baseSized within with ⟨power, kept⟩
  rw [toRat_one, one_mul] at power
  have raised : base.pow context exponent =
      .ok ((powerLoop (context.precision + digitCount exponent + 1) exponent one base).round
        context.precision) := by
    rw [passes.pow_eq, lastStep, if_neg (by omega), powerPrecision, Int.natAbs_natCast, baseKept]
  rw [powRounded, baseKept]
  refine ⟨List.forall_mem_cons.2 ⟨baseKept, kept⟩, _, raised, ?_, ?_⟩
  · exact SameNumber.round (power.trans (base.toRat_exactPower exponent).symm) context.precision
  · intro short fewDigits same
    have rounded := SameNumber.round (power.trans same.symm) context.precision
    rw [round_of_digits_le fewDigits] at rounded
    exact rounded.trans same

/-- The exact power has eighteen digits. All of them are there until the last rounding. -/
theorem pow_of_fitting_odd :
    ¬(⟨-15, 1⟩ : Decimal).isZero ∧ digitCount (15 ^ 15) = 18 ∧
      (∀ value ∈ powRounded 19 15 ⟨-15, 1⟩, value.round 19 = value) ∧
      (⟨-15, 1⟩ : Decimal).pow Context.default 15 = .ok ⟨-4378938903808594, 13⟩ ∧
      toRat ⟨-4378938903808594, 13⟩ = (round 16 ⟨-437893890380859375, 15⟩).toRat := by
  have nonzero : ¬(⟨-15, 1⟩ : Decimal).isZero := by decide
  have raised : (⟨-15, 1⟩ : Decimal).pow Context.default 15 = .ok ⟨-4378938903808594, 13⟩ := by
    decide +kernel
  have digits : digitCount (15 ^ 15) = 18 := by decide +kernel
  have fits : digitCount (15 ^ 15) ≤ Context.default.precision + digitCount 15 + 1 := by
    rw [digits]
    decide +kernel
  have accepted : ∀ bound, (⟨-15, 1⟩ : Decimal).pow Context.default (15 : ℕ) ≠
      .error (.excess bound) := by
    intro bound exceeded
    cases raised.symm.trans exceeded
  rcases pow_of_fitting nonzero (by decide : 0 < 15) fits accepted with
    ⟨kept, result, succeeded, rounded, -⟩
  cases raised.symm.trans succeeded
  exact ⟨nonzero, digits, kept, raised, rounded⟩

end DecimalCalculator.Decimal
