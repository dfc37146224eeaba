import DecimalCalculator.Binary64.Conversion
import DecimalCalculator.Proofs.Decimal.Scale

/-!
# The size of decimals of binary numbers

A finite binary number of 64 bits lies between two fixed powers of ten, and so do the grids on which
its shortest decimal is looked for. The decimal that a function gives has therefore a bounded scale
and a bounded number of digits, whatever the function computes. The bounds are far from tight.
-/

namespace DecimalCalculator

namespace Binary64.Magnitude

variable {magnitude : Magnitude}

/-- The magnitudes of finite binary numbers. -/
structure IsFinite (magnitude : Magnitude) : Prop where
  significand : magnitude.significand < twoTo 53
  low : -1074 ≤ magnitude.exponent
  high : magnitude.exponent ≤ 971

theorem isFinite_of_decode? {bits : ℕ} (decoded : decode? bits = some magnitude) :
    magnitude.IsFinite := by
  have fraction : bits % twoTo fractionBits < twoTo fractionBits :=
    Nat.mod_lt _ (twoTo_pos fractionBits)
  have limits : twoTo fractionBits = 4503599627370496 ∧ twoTo 53 = 9007199254740992 ∧
    infinityBits = 2047 * 4503599627370496 ∧ minimalExponent = -1074 := ⟨rfl, rfl, rfl, rfl⟩
  rw [limits.1] at fraction
  simp only [decode?, limits.1] at decoded
  split at decoded
  · cases decoded
  split at decoded
  · cases decoded
    exact ⟨by simp only; omega, by simp only; omega, by simp only; omega⟩
  · cases decoded
    exact ⟨by simp only; omega, by simp only; omega, by simp only; omega⟩

theorem twoTo_add (left right : ℕ) : twoTo (left + right) = twoTo left * twoTo right :=
  pow_add 2 left right

theorem twoTo_le_twoTo {small large : ℕ} (ordered : small ≤ large) : twoTo small ≤ twoTo large :=
  Nat.pow_le_pow_right (by decide) ordered

namespace IsFinite

variable (finite : magnitude.IsFinite)

include finite

/-- A finite significand with the power of two in front of the point. -/
theorem mul_twoTo_lt {factor exponent bits places : ℕ} (small : factor ≤ twoTo bits)
    (places_eq : exponent ≤ places) :
    magnitude.significand * factor * twoTo exponent < twoTo (53 + bits + places) := by
  rw [twoTo_add, twoTo_add]
  have power := twoTo_le_twoTo places_eq
  have positive := Nat.mul_pos (twoTo_pos bits) (twoTo_pos places)
  calc
    magnitude.significand * factor * twoTo exponent
      ≤ magnitude.significand * twoTo bits * twoTo places := by gcongr
    _ < twoTo 53 * twoTo bits * twoTo places := by
      rw [Nat.mul_assoc, Nat.mul_assoc]
      exact Nat.mul_lt_mul_of_pos_right finite.significand positive

theorem decimalOrder_bounds :
    -323 ≤ magnitude.decimalOrder ∧ magnitude.decimalOrder ≤ 309 := by
  have low := finite.low
  have high := finite.high
  have numerator : digitCount (magnitude.significand * twoTo magnitude.exponent.toNat) ≤ 309 := by
    have below := finite.mul_twoTo_lt (le_refl (twoTo 0))
      (by omega : magnitude.exponent.toNat ≤ 971)
    rw [twoTo_zero, Nat.mul_one] at below
    exact digitCount_le_of_lt (by decide) (below.trans (by decide +kernel))
  have denominator : digitCount (twoTo (-magnitude.exponent).toNat) ≤ 324 := by
    have below := twoTo_le_twoTo (by omega : (-magnitude.exponent).toNat ≤ 1074)
    exact digitCount_le_of_lt (by decide) (below.trans_lt (by decide +kernel))
  simp only [decimalOrder]
  split
  · have whole := digitCount_mono (Nat.div_le_self
      (magnitude.significand * twoTo magnitude.exponent.toNat)
      (twoTo (-magnitude.exponent).toNat))
    omega
  · have inverse := digitCount_mono ((Nat.div_le_self
      (twoTo (-magnitude.exponent).toNat - 1)
      (magnitude.significand * twoTo magnitude.exponent.toNat)).trans (Nat.sub_le _ 1))
    omega

theorem digitCount_quarters_le {grid : ℤ} (near : -341 ≤ grid) :
    digitCount (magnitude.quarters grid (4 * magnitude.significand)) ≤ 650 := by
  have high := finite.high
  have below := finite.mul_twoTo_lt (by decide : 4 ≤ twoTo 2)
    (by omega : (magnitude.exponent - 2).toNat ≤ 969)
  have binary : digitCount (4 * magnitude.significand * twoTo (magnitude.exponent - 2).toNat) ≤
      309 := by
    rw [Nat.mul_comm 4]
    exact digitCount_le_of_lt (by decide) (below.trans (by decide +kernel))
  have shifted := digitCount_mul_tenTo_le
    (4 * magnitude.significand * twoTo (magnitude.exponent - 2).toNat) (-grid).toNat
  rw [quarters]
  omega

omit finite in
/-- The nearest index is that of one of the two neighbours on the grid. -/
theorem nearestIndex?_le {grid : ℤ} {index : ℕ}
    (found : magnitude.nearestIndex? grid = some index) :
    index ≤ magnitude.quarters grid (4 * magnitude.significand) + 1 := by
  have quotient := Nat.div_le_self (magnitude.quarters grid (4 * magnitude.significand))
    (magnitude.gridPoint grid 1)
  simp only [nearestIndex?] at found
  split at found
  · cases found
  · cases found
    omega
  · cases found
    omega
  · split at found <;> cases found <;> omega

theorem shortest_bounds :
    magnitude.shortest.digits ≤ 651 ∧ magnitude.shortest.scale.natAbs ≤ 341 := by
  have order := finite.decimalOrder_bounds
  have zero : Decimal.zero.digits ≤ 651 ∧ Decimal.zero.scale.natAbs ≤ 341 := by decide
  rw [shortest]
  split
  · exact zero
  simp only
  cases found : (List.range maximalDigits).findSome? _ with
  | none => exact zero
  | some value =>
      rcases List.exists_of_findSome?_eq_some found with ⟨digits, member, candidate⟩
      have few : digits < 17 := List.mem_range.1 member
      rcases Option.map_eq_some_iff.1 candidate with ⟨number, indexed, rfl⟩
      rcases Option.bind_eq_some_iff.1 indexed with ⟨index, near, same⟩
      cases same
      have exact := finite.digitCount_quarters_le
        (by omega : -341 ≤ magnitude.decimalOrder - (digits + 1))
      have bounded := digitCount_mono (nearestIndex?_le near)
      have further := digitCount_add_le
        (magnitude.quarters (magnitude.decimalOrder - (digits + 1)) (4 * magnitude.significand)) 1
      have single : digitCount 1 = 1 := rfl
      rw [Option.getD_some]
      refine ⟨?_, ?_⟩
      · rw [Decimal.digits, Int.natAbs_natCast]
        omega
      · simp only
        omega

end IsFinite

end Binary64.Magnitude

namespace Decimal

/-- Positional notation replaces a negative scale by zeros at the end. -/
theorem positional_bounds (value : Decimal) :
    value.positional.digits ≤ 2 * value.digits + value.scale.natAbs ∧
      value.positional.scale.natAbs ≤ value.digits + value.scale.natAbs := by
  have digits := digits_trimmed_le value
  have scale := natAbs_scale_trimmed_le value
  simp only [positional]
  split
  · refine ⟨?_, Nat.zero_le _⟩
    have shifted := digitCount_mul_tenTo_le value.trimmed.mantissa.natAbs
      value.trimmed.scale.natAbs
    rw [Decimal.digits, Int.natAbs_mul, Int.natAbs_natCast]
    rw [Decimal.digits] at digits
    omega
  · exact ⟨by omega, by omega⟩

/-- The decimals that functions give have bounded sizes. -/
theorem ofFloat?_bounds {number : Float} {value : Decimal} (given : ofFloat? number = some value) :
    value.digits ≤ 1643 ∧ value.scale.natAbs ≤ 992 := by
  rcases Option.map_eq_some_iff.1 given with ⟨magnitude, decoded, result⟩
  have finite := Binary64.Magnitude.isFinite_of_decode? decoded
  have short := finite.shortest_bounds
  have bounds := positional_bounds magnitude.shortest
  have positional : magnitude.shortest.positional.digits ≤ 1643 ∧
      magnitude.shortest.positional.scale.natAbs ≤ 992 := by omega
  simp only at result
  split at result
  · rw [← result, digits_neg]
    exact positional
  · rw [← result]
    exact positional

end Decimal

end DecimalCalculator
