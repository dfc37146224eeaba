import DecimalCalculator.Proofs.Decimal.Extent
import DecimalCalculator.Proofs.Machine.Run

/-!
# Bounds on the words of single operations

The words of an operation are bounded by what its operands bring along: scales by their extents,
numbers of digits and the exponents that provide them by their digits. In both cases a constant
comes in addition, which depends on the operation and the precision only.
-/

namespace DecimalCalculator

namespace Word

variable {word : Word} {extent digits : ℕ}

/-- Bounds on what a word holds: one on a scale, the other one on a number of digits and on the
exponent that provides them. -/
def Within (extent digits : ℕ) : Word → Prop
  | scale number => number.natAbs ≤ extent
  | length number | exponent number => number ≤ digits

theorem Within.mono {largerExtent largerDigits : ℕ} (within : word.Within extent digits)
    (extents : extent ≤ largerExtent) (lengths : digits ≤ largerDigits) :
    word.Within largerExtent largerDigits := by
  cases word with
  | scale number => exact Nat.le_trans within extents
  | length number | exponent number => exact Nat.le_trans within lengths

theorem Within.fits (within : word.Within extent digits) (extents : extent < twoTo 63)
    (lengths : digits < twoTo 32) : word.fits := by
  have limits : twoTo 63 = 9223372036854775808 ∧ twoTo 64 = 18446744073709551616 ∧
    twoTo 32 = 4294967296 := ⟨rfl, rfl, rfl⟩
  cases word with
  | scale number =>
      simp only [Within] at within
      simp only [fits, decide_eq_true_eq]
      omega
  | length number | exponent number =>
      simp only [Within] at within
      simp only [fits, decide_eq_true_eq]
      omega

theorem within_of_mem_scales {scales : List ℤ} (bounded : ∀ scale ∈ scales, scale.natAbs ≤ extent)
    (member : word ∈ scales.map .scale) : word.Within extent digits := by
  rcases List.mem_map.1 member with ⟨scale, inScales, rfl⟩
  exact bounded scale inScales

end Word

namespace Decimal

variable {context : Context} {precision : ℕ} {value left right dividend divisor base : Decimal}
variable {exponent : ℤ} {word : Word}

theorem mulWords_within (member : word ∈ mulWords left right) :
    word.Within (left.extent + right.extent) 0 :=
  Word.within_of_mem_scales (fun _ => natAbs_le_extent_of_mem_mulScales) member

theorem quotientLengths_within (member : word ∈ quotientLengths dividend precision divisor) :
    word.Within 0 (precision + 2 + divisor.digits) := by
  rw [quotientLengths] at member
  split at member
  · cases member
  · simp only [List.mem_cons, List.not_mem_nil, or_false] at member
    rcases member with rfl | rfl
    · exact Nat.le_refl _
    · exact Nat.sub_le _ _

theorem divWords_within (member : word ∈ divWords dividend precision divisor) :
    word.Within (dividend.extent + divisor.extent + 2 * precision + 6)
      (precision + 2 + divisor.digits) := by
  rcases Word.mem_andThen member with inLengths | inScales
  · exact (quotientLengths_within inLengths).mono (Nat.zero_le _) (Nat.le_refl _)
  · exact Word.within_of_mem_scales (fun _ => natAbs_le_extent_of_mem_divScales) inScales

/-- The words of a power, if its base is not a zero with a scale. -/
theorem powWords_within (keeps : 0 < context.precision)
    (precise : context.precision ≤ Context.maximalPrecision)
    (unscaled : base.isZero → base = zero) (member : word ∈ powWords context base exponent) :
    word.Within powerScaleBound 500 := by
  rw [powWords] at member
  split at member
  · cases member
  split at member
  · cases member
  split at member
  · cases member
  next nonzero small bounded =>
    have passes := passesGuards_of_not_refused nonzero small bounded
    have working := passes.powerPrecision_le precise
    have short := (passes.scale_powerLoop_le precise unscaled).1
    rcases Word.mem_andThen member with inLengths | inScales
    · rw [powerLengths] at inLengths
      rcases Word.mem_andThen inLengths with first | reciprocal
      · rw [List.mem_singleton.1 first]
        exact working.trans (by decide)
      · split at reciprocal
        · exact (quotientLengths_within reciprocal).mono (Nat.zero_le _) (by omega)
        · cases reciprocal
    · exact Word.within_of_mem_scales (powScales_bounds keeps precise unscaled).1 inScales

/-! ## Conversions -/

theorem estimatedDigits_le (number : ℕ) : estimatedDigits number ≤ 2 * digitCount number + 1 := by
  have bits : number.log2 ≤ 4 * digitCount number := by
    rcases Nat.eq_zero_or_pos number with rfl | positive
    · exact Nat.zero_le _
    apply Nat.le_of_lt
    rw [Nat.log2_lt positive.ne', Nat.pow_mul]
    exact (lt_tenTo_digitCount number).trans_le (Nat.pow_le_pow_left (by decide) _)
  have unit : tenTo 20 = 100000000000000000000 := rfl
  rw [estimatedDigits, unit]
  omega

/-- No more digits are cut off on the way to a binary number than a decimal counts twice. -/
theorem conversionWords_within (member : word ∈ value.conversionWords) :
    word.Within (value.extent + 1) 0 := by
  rw [conversionWords] at member
  split at member
  · cases member
  · rw [List.mem_singleton.1 member]
    have estimated := estimatedDigits_le value.mantissa.natAbs
    have cut := Nat.mul_div_le (estimatedDigits value.mantissa.natAbs - keptDigits) digitGroup
    have digits : value.digits = digitCount value.mantissa.natAbs := rfl
    simp only [Word.Within, shortened, extent]
    omega

end Decimal

end DecimalCalculator
