import DecimalCalculator.Proofs.Decimal.Rounding

/-!
# Quotients are rounded correctly

A quotient of decimals is the exact quotient of their numbers, rounded once to the digits that are
asked for. The integer division that is behind it is long enough: its quotient has at least two
digits more than are kept. Where it leaves something over, the digit that records this puts the
decimal between the same two integers as the exact quotient, and both round alike.

Signs are put on last. The integer division cuts toward zero and the recorded digit has the sign of
the quotient, so a change of sign in one of the operands changes the sign of the result and nothing
else, and the division itself need only be looked at for natural numbers.
-/

namespace DecimalCalculator.Decimal

/-! ## Signs -/

theorem longQuotient_neg_left (precision : ℕ) (dividend divisor : Decimal) :
    longQuotient precision dividend.neg divisor =
      (longQuotient precision dividend divisor).neg := by
  simp only [longQuotient, digits_neg]
  simp only [neg, Int.neg_mul, Int.neg_tdiv, Int.neg_tmod, Int.sign_neg, neg_eq_zero]
  split
  · rfl
  · congr 1
    ring

theorem longQuotient_neg_right (precision : ℕ) (dividend divisor : Decimal) :
    longQuotient precision dividend divisor.neg =
      (longQuotient precision dividend divisor).neg := by
  simp only [longQuotient, digits_neg]
  simp only [neg, Int.tdiv_neg, Int.tmod_neg, Int.sign_neg]
  split
  · rfl
  · congr 1
    ring

/-! ## Quotients of positive decimals -/

section Positive

variable {precision : ℕ} {dividend divisor : ℕ}

/-- The number of digits that are put behind the dividend. -/
def shiftOf (precision dividend divisor : ℕ) : ℕ :=
  precision + 2 + digitCount divisor - digitCount dividend

/-- The integer quotient has at least two digits more than are kept. -/
theorem le_digitCount_quotient (precision : ℕ) (dividendPositive : 0 < dividend)
    (divisorPositive : 0 < divisor) :
    precision + 2 ≤
      digitCount (dividend * tenTo (shiftOf precision dividend divisor) / divisor) := by
  have digits := digitCount_pos dividend
  have exponents : precision + 1 + digitCount divisor ≤
      digitCount dividend - 1 + shiftOf precision dividend divisor := by
    rw [shiftOf]
    omega
  have large : tenTo (precision + 1) * divisor ≤
      dividend * tenTo (shiftOf precision dividend divisor) :=
    calc
      tenTo (precision + 1) * divisor ≤ tenTo (precision + 1) * tenTo (digitCount divisor) :=
        Nat.mul_le_mul_left _ (lt_tenTo_digitCount divisor).le
      _ = tenTo (precision + 1 + digitCount divisor) := (pow_add 10 _ _).symm
      _ ≤ tenTo (digitCount dividend - 1 + shiftOf precision dividend divisor) :=
        tenTo_le_tenTo exponents
      _ = tenTo (digitCount dividend - 1) * tenTo (shiftOf precision dividend divisor) :=
        pow_add 10 _ _
      _ ≤ dividend * tenTo (shiftOf precision dividend divisor) :=
        Nat.mul_le_mul_right _ (tenTo_digitCount_pred_le dividendPositive)
  have reached := (Nat.le_div_iff_mul_le divisorPositive).2 large
  by_contra fewer
  have small := (digitCount_le_iff (Nat.succ_pos precision)).1 (by omega :
    digitCount (dividend * tenTo (shiftOf precision dividend divisor) / divisor) ≤ precision + 1)
  exact absurd reached (Nat.not_le_of_lt small)

/-- The long quotient of positive decimals, by the division of natural numbers. -/
theorem longQuotient_natCast (precision : ℕ) (dividendPositive : 0 < dividend)
    (divisorPositive : 0 < divisor) (dividendScale divisorScale : ℤ) :
    longQuotient precision ⟨dividend, dividendScale⟩ ⟨divisor, divisorScale⟩ =
      let shift := shiftOf precision dividend divisor
      let quotient := dividend * tenTo shift / divisor
      let scale := dividendScale - divisorScale + shift
      if dividend * tenTo shift % divisor = 0 then ⟨quotient, scale⟩
      else ⟨quotient * 10 + 1, scale + 1⟩ := by
  have shift : precision + 2 + (⟨divisor, divisorScale⟩ : Decimal).digits -
      (⟨dividend, dividendScale⟩ : Decimal).digits = shiftOf precision dividend divisor := rfl
  simp only [longQuotient, shift]
  generalize shiftOf precision dividend divisor = shift
  have numerator : 0 < dividend * tenTo shift := Nat.mul_pos dividendPositive (tenTo_pos shift)
  have quotient (front : ℕ) : (front : ℤ).tdiv divisor = (front / divisor : ℕ) := rfl
  have remainder (front : ℕ) : (front : ℤ).tmod divisor = (front % divisor : ℕ) := rfl
  rw [← Int.natCast_mul, Int.sign_natCast_of_ne_zero numerator.ne',
    Int.sign_natCast_of_ne_zero divisorPositive.ne', quotient, remainder]
  simp only [Int.natCast_eq_zero, mul_one]

theorem toRat_div_toRat (dividendScale divisorScale : ℤ) (divisorPositive : 0 < divisor)
    (shift : ℕ) :
    toRat ⟨dividend, dividendScale⟩ / toRat ⟨divisor, divisorScale⟩ =
      ((dividend * tenTo shift / divisor : ℕ) +
        ((dividend * tenTo shift % divisor : ℕ) : ℚ) / divisor) *
        (10 : ℚ) ^ (-(dividendScale - divisorScale + shift)) := by
  have unit : (divisor : ℚ) ≠ 0 := by exact_mod_cast divisorPositive.ne'
  have scale : -(dividendScale - divisorScale + shift) =
      -dividendScale - -divisorScale - (shift : ℤ) := by omega
  rw [cast_div_add_cast_mod _ divisorPositive, scale, zpow_sub₀ ten_ne_zero, zpow_sub₀ ten_ne_zero,
    zpow_natCast, toRat, toRat, Nat.cast_mul, cast_tenTo]
  push_cast
  field_simp

theorem roundsTo_longQuotient_natCast (dividendPositive : 0 < dividend)
    (divisorPositive : 0 < divisor) (dividendScale divisorScale : ℤ) {rounded : ℚ}
    (rounds : RoundsTo precision
      (longQuotient precision ⟨dividend, dividendScale⟩ ⟨divisor, divisorScale⟩).toRat rounded) :
    RoundsTo precision (toRat ⟨dividend, dividendScale⟩ / toRat ⟨divisor, divisorScale⟩)
      rounded := by
  have long := le_digitCount_quotient precision dividendPositive divisorPositive
  simp only [longQuotient_natCast precision dividendPositive divisorPositive] at rounds
  rw [toRat_div_toRat dividendScale divisorScale divisorPositive
    (shiftOf precision dividend divisor)]
  generalize shiftOf precision dividend divisor = shift at long rounds ⊢
  have bound := Nat.mod_lt (dividend * tenTo shift) divisorPositive
  generalize dividend * tenTo shift / divisor = quotient at long rounds ⊢
  generalize dividend * tenTo shift % divisor = remainder at bound rounds ⊢
  generalize dividendScale - divisorScale + shift = scale at rounds ⊢
  split at rounds
  next exact =>
    rw [exact, Nat.cast_zero, zero_div, add_zero]
    exact rounds
  next inexact =>
    -- The recorded digit is a tenth of the last place.
    have tenth : toRat ⟨(quotient : ℤ) * 10 + 1, scale + 1⟩ =
        (quotient + 1 / 10) * (10 : ℚ) ^ (-scale) := by
      rw [toRat, neg_add, zpow_add₀ ten_ne_zero, zpow_neg_one]
      push_cast
      ring
    rw [tenth] at rounds
    have unit : (0 : ℚ) < divisor := by exact_mod_cast divisorPositive
    have part : (0 : ℚ) < remainder := by exact_mod_cast Nat.pos_of_ne_zero inexact
    refine rounds.between long (by norm_num) ⟨div_pos part unit, ?_⟩
    rw [div_lt_one unit]
    exact_mod_cast bound

end Positive

/-! ## Quotients of any sign -/

/-- What a long quotient rounds to the exact quotient rounds to. -/
theorem roundsTo_of_longQuotient {precision : ℕ} {dividend divisor : Decimal} {rounded : ℚ}
    (dividendNonzero : ¬dividend.isZero) (divisorNonzero : ¬divisor.isZero)
    (rounds : RoundsTo precision (longQuotient precision dividend divisor).toRat rounded) :
    RoundsTo precision (dividend.toRat / divisor.toRat) rounded := by
  induction dividend using sign_induction generalizing rounded with
  | opposite dividend ih =>
      rw [isZero_neg] at dividendNonzero
      rw [longQuotient_neg_left, toRat_neg, RoundsTo.neg_left_iff] at rounds
      rw [toRat_neg, neg_div, RoundsTo.neg_left_iff]
      exact ih dividendNonzero rounds
  | natural front frontScale =>
      induction divisor using sign_induction generalizing rounded with
      | opposite divisor ih =>
          rw [isZero_neg] at divisorNonzero
          rw [longQuotient_neg_right, toRat_neg, RoundsTo.neg_left_iff] at rounds
          rw [toRat_neg, div_neg, RoundsTo.neg_left_iff]
          exact ih divisorNonzero rounds
      | natural back backScale =>
          exact roundsTo_longQuotient_natCast (pos_of_not_isZero dividendNonzero)
            (pos_of_not_isZero divisorNonzero) frontScale backScale rounds

theorem exists_div {divisor : Decimal} (nonzero : ¬divisor.isZero) (dividend : Decimal)
    (precision : ℕ) : ∃ quotient, dividend.div precision divisor = .ok quotient := by
  rw [div, if_neg nonzero]
  split <;> exact ⟨_, rfl⟩

/-- A quotient is the exact quotient of the numbers, rounded to the digits asked for. -/
theorem roundsTo_div {precision : ℕ} {dividend divisor quotient : Decimal}
    (divided : dividend.div precision divisor = .ok quotient) :
    RoundsTo precision (dividend.toRat / divisor.toRat) quotient.toRat := by
  simp only [div] at divided
  split at divided
  · cases divided
  next divisorNonzero =>
    split at divided
    next zero =>
      cases divided
      rw [toRat_of_isZero zero, zero_div, toRat_of_isZero rfl]
      exact .zero
    next dividendNonzero =>
      cases divided
      exact roundsTo_of_longQuotient dividendNonzero divisorNonzero (roundsTo_round precision _)

theorem exists_hasOrder_div {dividend divisor : Decimal} (dividendNonzero : ¬dividend.isZero)
    (divisorNonzero : ¬divisor.isZero) :
    ∃ order, HasOrder (dividend.toRat / divisor.toRat) order := by
  rw [← toRat_eq_zero_iff] at dividendNonzero divisorNonzero
  exact exists_hasOrder (div_ne_zero dividendNonzero divisorNonzero)

/-- Division is correctly rounded. A quotient of non-zero decimals is never refused, and it is the
multiple of the unit of the last digit kept that is nearest to the exact quotient, the even one of
two that are equally near. -/
theorem div_nearest {dividend divisor : Decimal} (dividendNonzero : ¬dividend.isZero)
    (divisorNonzero : ¬divisor.isZero) (precision : ℕ) :
    ∃ quotient, dividend.div precision divisor = .ok quotient ∧
      ∃ order : ℤ, HasOrder (dividend.toRat / divisor.toRat) order ∧
        ∃ index : ℤ, quotient.toRat = index * (10 : ℚ) ^ (order - precision) ∧
          |quotient.toRat - dividend.toRat / divisor.toRat| ≤
            (10 : ℚ) ^ (order - precision) / 2 ∧
          (|quotient.toRat - dividend.toRat / divisor.toRat| =
            (10 : ℚ) ^ (order - precision) / 2 → Even index) := by
  rcases exists_div divisorNonzero dividend precision with ⟨quotient, divided⟩
  rcases exists_hasOrder_div dividendNonzero divisorNonzero with ⟨order, hasOrder⟩
  exact ⟨quotient, divided, order, hasOrder,
    (roundsTo_div divided).exists_multiple_near hasOrder⟩

/-- An eighth lies halfway between two numbers of two digits, and goes to the even one, also behind
a sign. -/
theorem div_nearest_negative_eighth :
    ¬(⟨-1, 0⟩ : Decimal).isZero ∧ ¬(⟨8, 0⟩ : Decimal).isZero ∧
      ∃ quotient, (⟨-1, 0⟩ : Decimal).div 2 ⟨8, 0⟩ = .ok quotient ∧ quotient.toRat = -0.12 := by
  have dividendNonzero : ¬(⟨-1, 0⟩ : Decimal).isZero := by decide
  have divisorNonzero : ¬(⟨8, 0⟩ : Decimal).isZero := by decide
  have eighth : toRat ⟨-1, 0⟩ / toRat ⟨8, 0⟩ = -0.125 := by norm_num [toRat]
  have tenths : HasOrder (-0.125) 0 := by constructor <;> norm_num [abs_of_neg]
  rcases div_nearest dividendNonzero divisorNonzero 2 with
    ⟨quotient, divided, order, hasOrder, index, multiple, near, evenTie⟩
  rw [eighth] at hasOrder near evenTie
  obtain rfl := hasOrder.unique tenths
  have unit : (10 : ℚ) ^ ((0 : ℤ) - (2 : ℕ)) = 0.01 := by norm_num
  rw [unit] at multiple near evenTie
  -- Both neighbours are as near, so the distance alone leaves two indices.
  have index_eq : index = -13 ∨ index = -12 := by
    rw [multiple, abs_le] at near
    have low : (-13 : ℚ) ≤ index := by linarith
    have high : (index : ℚ) ≤ -12 := by linarith
    have low : -13 ≤ index := by exact_mod_cast low
    have high : index ≤ -12 := by exact_mod_cast high
    omega
  refine ⟨dividendNonzero, divisorNonzero, quotient, divided, ?_⟩
  rcases index_eq with rfl | rfl
  · have isEven : Even (-13 : ℤ) := evenTie (by rw [multiple]; norm_num [abs_of_neg])
    exact absurd isEven (by decide)
  · rw [multiple]
    norm_num

end DecimalCalculator.Decimal
