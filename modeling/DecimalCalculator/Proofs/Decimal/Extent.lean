import DecimalCalculator.Decimal.Factorial
import DecimalCalculator.Proofs.Binary64.Size
import DecimalCalculator.Proofs.Decimal.Literal
import DecimalCalculator.Proofs.Decimal.Uniqueness

/-!
# How much decimals add to scales

An operation computes scales from the scales of its operands and from the numbers of their digits.
The extent of a decimal counts both, the digits twice, so that every operation gives a decimal whose
extent exceeds those of its operands together by no more than a constant. Literals and factorials
have extents that their writing and the largest argument bound.
-/

namespace DecimalCalculator

theorem AllDigits.digitCount_le {digits : List Char} (allDigits : AllDigits digits)
    (nonempty : digits ≠ []) : digitCount (Nat.ofDigitChars 10 digits 0) ≤ digits.length :=
  digitCount_le_of_lt (List.length_pos_iff.2 nonempty) allDigits.lt_tenTo

theorem digitCount_factorial_le {number digits : ℕ} (small : number < tenTo digits) :
    digitCount (factorial number) ≤ digits * number + 1 := by
  induction number with
  | zero => exact Nat.le_add_left 1 _
  | succ number ih =>
      have factor : digitCount (number + 1) ≤ digits := by
        rcases Nat.eq_zero_or_pos digits with rfl | positive
        · rw [tenTo_zero] at small
          omega
        · exact digitCount_le_of_lt positive small
      have product := digitCount_mul_le (number + 1) (factorial number)
      have earlier := ih (Nat.lt_of_succ_lt small)
      rw [factorial, Nat.mul_succ]
      omega

namespace Decimal

/-- What a decimal can add to the scales that are computed from it. -/
def extent (value : Decimal) : ℕ := value.scale.natAbs + 2 * value.digits

variable {context : Context} {precision : ℕ} {value left right dividend divisor result : Decimal}

@[simp]
theorem extent_neg (value : Decimal) : value.neg.extent = value.extent := by
  rw [extent, extent, digits_neg, neg]

/-! ## Operations -/

theorem digits_mantissaAt_le (value : Decimal) (scale : ℤ) :
    digitCount (value.mantissaAt scale).natAbs ≤ value.digits + (scale - value.scale).toNat := by
  rw [mantissaAt, Int.natAbs_mul, Int.natAbs_natCast]
  exact digitCount_mul_tenTo_le _ _

theorem digits_sum_le (near : (left.scale - right.scale).natAbs ≤ scaleGapLimit) :
    (sum left right).digits ≤ left.digits + right.digits + scaleGapLimit + 1 := by
  have leftDigits := digits_mantissaAt_le left (max left.scale right.scale)
  have rightDigits := digits_mantissaAt_le right (max left.scale right.scale)
  have together := digitCount_add_le (left.mantissaAt (max left.scale right.scale)).natAbs
    (right.mantissaAt (max left.scale right.scale)).natAbs
  have triangle := digitCount_mono (Int.natAbs_add_le (left.mantissaAt (max left.scale right.scale))
    (right.mantissaAt (max left.scale right.scale)))
  have written : (sum left right).digits =
      digitCount (left.mantissaAt (max left.scale right.scale) +
        right.mantissaAt (max left.scale right.scale)).natAbs := rfl
  omega

theorem extent_add_le (added : left.add right = .ok result) :
    result.extent ≤ left.extent + right.extent + 2 * (scaleGapLimit + 1) := by
  rw [add] at added
  split at added
  · cases added
    omega
  split at added
  · cases added
    omega
  split at added
  · cases added
  next near =>
    cases added
    have digits := digits_sum_le (Nat.le_of_not_lt near)
    have scale : (sum left right).scale = max left.scale right.scale := rfl
    rw [extent, extent, extent, scale]
    omega

theorem digits_add_le (added : left.add right = .ok result) :
    result.digits ≤ left.digits + right.digits + scaleGapLimit + 1 := by
  rw [add] at added
  split at added
  · cases added
    omega
  split at added
  · cases added
    omega
  split at added
  · cases added
  next near =>
    cases added
    exact digits_sum_le (Nat.le_of_not_lt near)

theorem extent_mul_le (left right : Decimal) :
    (left.mul right).extent ≤ left.extent + right.extent := by
  have digits := digits_mul_le left right
  have scale : (left.mul right).scale.natAbs ≤ left.scale.natAbs + right.scale.natAbs := by
    rw [mul]
    split
    · exact Nat.le_add_left _ _
    split
    · exact Nat.le_add_right _ _
    · exact Int.natAbs_add_le _ _
  rw [extent, extent, extent]
  omega

theorem natAbs_le_extent_of_mem_mulScales {scale : ℤ} (member : scale ∈ mulScales left right) :
    scale.natAbs ≤ left.extent + right.extent := by
  have bounded := natAbs_le_of_mem_mulScales member
  rw [extent, extent]
  omega

theorem natAbs_le_extent_of_mem_divScales {scale : ℤ}
    (member : scale ∈ divScales dividend precision divisor) :
    scale.natAbs ≤ dividend.extent + divisor.extent + 2 * precision + 6 := by
  have bounded := natAbs_le_of_mem_divScales member
  rw [extent, extent]
  omega

theorem extent_div_le (keeps : 0 < precision)
    (divided : dividend.div precision divisor = .ok result) :
    result.extent ≤ dividend.extent + divisor.extent + 4 * precision + 8 := by
  have bounds := div_bounds keeps divided
  rw [extent, extent, extent]
  omega

theorem extent_pow_le {base : Decimal} {exponent : ℤ} (keeps : 0 < context.precision)
    (precise : context.precision ≤ Context.maximalPrecision)
    (unscaled : base.isZero → base = zero) (raised : base.pow context exponent = .ok result) :
    result.extent ≤ powerScaleBound + 2 * (Context.maximalPrecision + 1) := by
  have bounds := (powScales_bounds keeps precise unscaled).2 result raised
  rw [extent]
  omega

theorem extent_factorial_le (multiplied : value.factorial context = .ok result) {digits : ℕ}
    (limited : context.factorialLimit < tenTo digits) :
    result.extent ≤ 2 * (digits * context.factorialLimit + 1) := by
  rw [factorial] at multiplied
  split at multiplied
  · split at multiplied <;> cases multiplied
  next number _ =>
    split at multiplied
    · cases multiplied
    split at multiplied
    · cases multiplied
    next small =>
      cases multiplied
      have bounded := digitCount_factorial_le ((Nat.le_of_not_lt small).trans_lt limited)
      have more := Nat.mul_le_mul_left digits (Nat.le_of_not_lt small)
      have written : (ofInt (DecimalCalculator.factorial number.toNat)).digits =
          digitCount (DecimalCalculator.factorial number.toNat) := rfl
      have scale : (ofInt (DecimalCalculator.factorial number.toNat)).scale = 0 := rfl
      rw [extent, written, scale]
      omega

theorem extent_ofFloat_le {function : String} {number : Float}
    (given : ofFloat function number = .ok result) : result.extent ≤ 4278 := by
  rw [ofFloat] at given
  split at given
  · cases given
  next value found =>
    cases given
    have bounds := ofFloat?_bounds found
    rw [extent]
    omega

/-! ## Literals -/

theorem readInteger?_bounds {text : List Char} {number : ℤ}
    (read : readInteger? text = some number) :
    0 < text.length ∧ digitCount number.natAbs ≤ text.length := by
  rcases readInteger?_cases read with ⟨digits, nonempty, allDigits, signed⟩
  have count := allDigits.digitCount_le nonempty
  have positive := List.length_pos_iff.2 nonempty
  cases signed with
  | unsigned =>
      rw [Int.natAbs_natCast]
      exact ⟨positive, count⟩
  | plus =>
      rw [Int.natAbs_natCast, List.length_cons]
      exact ⟨Nat.succ_pos _, count.trans (Nat.le_succ _)⟩
  | minus =>
      rw [Int.natAbs_neg, Int.natAbs_natCast, List.length_cons]
      exact ⟨Nat.succ_pos _, count.trans (Nat.le_succ _)⟩

/-- An integer is bounded by the digits behind its signs, which are what an exponent is checked
for. -/
theorem natAbs_lt_of_readInteger? {text : List Char} {number : ℤ}
    (read : readInteger? text = some number) :
    number.natAbs < tenTo (text.dropWhile isSign).length := by
  rcases readInteger?_cases read with ⟨digits, -, allDigits, signed⟩
  rw [signed.dropWhile_isSign allDigits]
  cases signed with
  | unsigned | plus =>
      rw [Int.natAbs_natCast]
      exact allDigits.lt_tenTo
  | minus =>
      rw [Int.natAbs_neg, Int.natAbs_natCast]
      exact allDigits.lt_tenTo

theorem ofBase?_bounds {base : List Char} {exponent : ℤ}
    (read : ofBase? base exponent = some value) :
    0 < base.length ∧ value.digits ≤ base.length ∧
      value.scale.natAbs ≤ base.length + exponent.natAbs := by
  rcases ofBase?_parts read with ⟨whole, fraction, mantissa, parted, integer, rfl⟩
  have bounds := readInteger?_bounds integer
  have length : (whole ++ fraction).length ≤ base.length := by
    rcases parted with ⟨rfl, rfl⟩ | rfl
    · rw [List.append_nil]
    · simp
  have part : fraction.length ≤ (whole ++ fraction).length := by simp
  refine ⟨bounds.1.trans_le length, bounds.2.trans length, ?_⟩
  simp only
  omega

/-- A literal has no more digits than characters, and its scale exceeds their number by no more than
an exponent of nine digits. -/
theorem ofChars?_bounds {text : List Char} (read : ofChars? text = some value) :
    0 < text.length ∧ value.digits ≤ text.length ∧
      value.scale.natAbs ≤ text.length + tenTo exponentDigits := by
  rcases ofChars?_parts read with based |
    ⟨base, mark, exponent, power, rfl, -, short, integer, based⟩
  · have bounds := ofBase?_bounds based
    omega
  · have bounds := ofBase?_bounds based
    have small := (natAbs_lt_of_readInteger? integer).trans_le (tenTo_le_tenTo short)
    rw [List.length_append]
    omega

end Decimal

end DecimalCalculator
