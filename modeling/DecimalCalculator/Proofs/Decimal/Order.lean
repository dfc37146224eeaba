import DecimalCalculator.Proofs.Decimal.SameNumber

/-!
# Digits and orders of results

How many digits the mantissas of results have, and between which orders of magnitude the results
lie. A rounded decimal has at most one digit more than was asked for, the one into which the
rounding carries. The order of a product is the sum of the orders or one less, and rounding raises
an order by at most one. The scale of a decimal is what its digits exceed its order by, so these
facts bound the scales that a calculation reaches.
-/

namespace DecimalCalculator

/-! ## Digits of natural numbers -/

theorem tenTo_add (left right : ℕ) : tenTo (left + right) = tenTo left * tenTo right :=
  pow_add 10 left right

theorem digitCount_le_of_lt {number bound : ℕ} (positive : 0 < bound)
    (below : number < tenTo bound) : digitCount number ≤ bound :=
  (digitCount_le_iff positive).2 below

theorem digitCount_mono {number other : ℕ} (ordered : number ≤ other) :
    digitCount number ≤ digitCount other :=
  digitCount_le_of_lt (digitCount_pos other) (ordered.trans_lt (lt_tenTo_digitCount other))

theorem digitCount_mul_le (left right : ℕ) :
    digitCount (left * right) ≤ digitCount left + digitCount right := by
  apply digitCount_le_of_lt (Nat.add_pos_left (digitCount_pos left) _)
  rw [tenTo_add]
  exact Nat.mul_lt_mul'' (lt_tenTo_digitCount left) (lt_tenTo_digitCount right)

theorem digitCount_add_le (left right : ℕ) :
    digitCount (left + right) ≤ max (digitCount left) (digitCount right) + 1 := by
  have leftBelow := (lt_tenTo_digitCount left).trans_le
    (tenTo_le_tenTo (le_max_left (digitCount left) (digitCount right)))
  have rightBelow := (lt_tenTo_digitCount right).trans_le
    (tenTo_le_tenTo (le_max_right (digitCount left) (digitCount right)))
  apply digitCount_le_of_lt (Nat.succ_pos _)
  rw [tenTo_succ]
  omega

theorem digitCount_mul_tenTo_le (number exponent : ℕ) :
    digitCount (number * tenTo exponent) ≤ digitCount number + exponent := by
  apply digitCount_le_of_lt (Nat.add_pos_left (digitCount_pos number) _)
  rw [tenTo_add]
  exact Nat.mul_lt_mul_of_pos_right (lt_tenTo_digitCount number) (tenTo_pos exponent)

theorem trailingZeros_le_digitCount (number : ℕ) : trailingZeros number ≤ digitCount number := by
  rw [trailingZeros]
  split
  · exact Nat.zero_le _
  · exact (List.takeWhile_prefix _).length_le.trans_eq List.length_reverse

/-- Dividing a number by the power of ten that it is too long leaves as many digits as are kept, or
carries over to the power of ten above. -/
theorem divideToEven_bounds {number kept removed : ℕ} (keeps : 0 < kept) (positive : 0 < number)
    (long : digitCount number = kept + removed) :
    tenTo (kept - 1) ≤ divideToEven number (tenTo removed) ∧
      divideToEven number (tenTo removed) ≤ tenTo kept := by
  have reached : tenTo (kept - 1) ≤ number / tenTo removed := by
    rw [Nat.le_div_iff_mul_le (tenTo_pos removed), ← tenTo_add]
    have digits : kept - 1 + removed = digitCount number - 1 := by omega
    rw [digits]
    exact tenTo_digitCount_pred_le positive
  have below : number / tenTo removed < tenTo kept := by
    rw [Nat.div_lt_iff_lt_mul (tenTo_pos removed), ← tenTo_add, ← long]
    exact lt_tenTo_digitCount number
  simp only [divideToEven]
  split <;> omega

theorem digitCount_bounds {number kept : ℕ} (keeps : 0 < kept) (reached : tenTo (kept - 1) ≤ number)
    (bounded : number ≤ tenTo kept) : kept ≤ digitCount number ∧ digitCount number ≤ kept + 1 := by
  constructor
  · by_contra fewer
    have digits := digitCount_pos number
    have small := (digitCount_le_iff (by omega : 0 < kept - 1)).1 (by omega :
      digitCount number ≤ kept - 1)
    omega
  · apply digitCount_le_of_lt (Nat.succ_pos kept)
    rw [tenTo_succ]
    have := tenTo_pos kept
    omega

/-- The order of a product is the sum of the orders, or one less. -/
theorem HasOrder.mul {number other : ℚ} {order otherOrder productOrder : ℤ}
    (hasOrder : HasOrder number order) (hasOther : HasOrder other otherOrder)
    (hasProduct : HasOrder (number * other) productOrder) :
    order + otherOrder - 1 ≤ productOrder ∧ productOrder ≤ order + otherOrder := by
  have ten : (1 : ℚ) < 10 := by norm_num
  have reached : (10 : ℚ) ^ (order - 1 + (otherOrder - 1)) < 10 ^ productOrder := by
    rw [zpow_add₀ Decimal.ten_ne_zero]
    refine lt_of_le_of_lt ?_ hasProduct.below
    rw [abs_mul]
    exact mul_le_mul hasOrder.reached hasOther.reached (by positivity) (abs_nonneg _)
  have below : (10 : ℚ) ^ (productOrder - 1) < 10 ^ (order + otherOrder) := by
    rw [zpow_add₀ Decimal.ten_ne_zero]
    refine lt_of_le_of_lt hasProduct.reached ?_
    rw [abs_mul]
    exact mul_lt_mul'' hasOrder.below hasOther.below (abs_nonneg _) (abs_nonneg _)
  rw [zpow_lt_zpow_iff_right₀ ten] at reached below
  omega

/-! ## Digits of decimals -/

namespace Decimal

variable {precision : ℕ} {value left right : Decimal}

theorem digits_pos (value : Decimal) : 0 < value.digits :=
  digitCount_pos _

theorem scale_eq (value : Decimal) : value.scale = value.digits - value.order := by
  rw [order]
  ring

theorem digits_one : one.digits = 1 := rfl

theorem digits_mantissa_mul (left right : Decimal) (scale : ℤ) :
    digits ⟨left.mantissa * right.mantissa, scale⟩ ≤ left.digits + right.digits := by
  rw [digits, Int.natAbs_mul]
  exact digitCount_mul_le _ _

theorem digits_trimmed_le (value : Decimal) : value.trimmed.digits ≤ value.digits := by
  rw [trimmed]
  split
  · exact value.digits_pos
  · apply digitCount_mono
    exact Int.natAbs_tdiv_le_natAbs _ _

theorem digits_mulTrimmed_le (left right : Decimal) :
    (left.mulTrimmed right).digits ≤ left.digits + right.digits := by
  rw [mulTrimmed]
  split
  · exact right.digits_trimmed_le.trans (Nat.le_add_left _ _)
  split
  · exact left.digits_trimmed_le.trans (Nat.le_add_right _ _)
  · exact digits_mantissa_mul left right _

theorem digits_mul_le (left right : Decimal) :
    (left.mul right).digits ≤ left.digits + right.digits := by
  rw [mul]
  split
  · exact Nat.le_add_left _ _
  split
  · exact Nat.le_add_right _ _
  · exact digits_mantissa_mul left right _

theorem round_of_long (long : precision < value.digits) :
    value.round precision = ⟨value.mantissa.sign *
      divideToEven value.mantissa.natAbs (tenTo (value.digits - precision)),
      value.scale - ((value.digits - precision : ℕ) : ℤ)⟩ := by
  rw [round, if_neg (Nat.not_le_of_lt long)]

/-- The mantissa of a decimal that was too long, between powers of ten. -/
theorem mantissa_round_of_long (keeps : 0 < precision) (nonzero : ¬value.isZero)
    (long : precision < value.digits) :
    tenTo (precision - 1) ≤ (value.round precision).mantissa.natAbs ∧
      (value.round precision).mantissa.natAbs ≤ tenTo precision := by
  have mantissa : value.mantissa ≠ 0 := mt isZero_iff.2 nonzero
  have split : digitCount value.mantissa.natAbs = precision + (value.digits - precision) := by
    rw [Nat.add_sub_cancel' long.le]
    rfl
  rw [round_of_long long, Int.natAbs_mul, Int.natAbs_sign_of_ne_zero mantissa, one_mul,
    Int.natAbs_natCast]
  exact divideToEven_bounds keeps (Int.natAbs_pos.2 mantissa) split

theorem not_isZero_of_long (keeps : 0 < precision) (long : precision < value.digits) :
    ¬value.isZero := by
  intro zero
  have single : value.digits = 1 := by
    rw [digits, isZero_iff.1 zero]
    rfl
  omega

/-- A decimal that is too long has so many digits as are kept, and one more after a carry. -/
theorem digits_round_of_long (keeps : 0 < precision) (long : precision < value.digits) :
    precision ≤ (value.round precision).digits ∧
      (value.round precision).digits ≤ precision + 1 := by
  rcases mantissa_round_of_long keeps (not_isZero_of_long keeps long) long with ⟨reached, bounded⟩
  exact digitCount_bounds keeps reached bounded

theorem digits_round_le (keeps : 0 < precision) (value : Decimal) :
    (value.round precision).digits ≤ precision + 1 := by
  rcases Nat.lt_or_ge precision value.digits with long | short
  · exact (digits_round_of_long keeps long).2
  · rw [round_of_digits_le short]
    exact short.trans (Nat.le_succ _)

/-! ## Orders -/

/-- Rounding raises an order by one where it carries over, and leaves it otherwise. -/
theorem order_round (keeps : 0 < precision) (value : Decimal) :
    value.order ≤ (value.round precision).order ∧
      (value.round precision).order ≤ value.order + 1 := by
  rcases Nat.lt_or_ge precision value.digits with long | short
  · have digits := digits_round_of_long keeps long
    have scale : (value.round precision).scale = value.scale - (value.digits - precision : ℕ) := by
      rw [round_of_long long]
    rw [order, order, scale]
    omega
  · rw [round_of_digits_le short]
    omega

theorem not_isZero_round (keeps : 0 < precision) (nonzero : ¬value.isZero) :
    ¬(value.round precision).isZero := by
  rcases Nat.lt_or_ge precision value.digits with long | short
  · have reached := (mantissa_round_of_long keeps nonzero long).1
    have positive := tenTo_pos (precision - 1)
    simp only [isZero, beq_iff_eq]
    omega
  · rwa [round_of_digits_le short]

theorem not_isZero_mulTrimmed (leftNonzero : ¬left.isZero) (rightNonzero : ¬right.isZero) :
    ¬(left.mulTrimmed right).isZero := by
  rw [← toRat_eq_zero_iff] at leftNonzero rightNonzero ⊢
  rw [toRat_mulTrimmed]
  exact mul_ne_zero leftNonzero rightNonzero

/-- The order of a product is the sum of the orders, or one less. -/
theorem order_mulTrimmed (leftNonzero : ¬left.isZero) (rightNonzero : ¬right.isZero) :
    left.order + right.order - 1 ≤ (left.mulTrimmed right).order ∧
      (left.mulTrimmed right).order ≤ left.order + right.order := by
  have leftOrder := hasOrder_toRat leftNonzero
  have rightOrder := hasOrder_toRat rightNonzero
  have product := hasOrder_toRat (not_isZero_mulTrimmed leftNonzero rightNonzero)
  rw [toRat_mulTrimmed] at product
  exact leftOrder.mul rightOrder product

end Decimal

end DecimalCalculator
