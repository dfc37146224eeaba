import DecimalCalculator.Proofs.Decimal.Rounding
import Mathlib.Tactic.Positivity

/-!
# Rounding twice

A number that is rounded to a few digits more than are kept, and then to the digits that are kept,
is not always where one rounding takes it. The first rounding brings numbers that lie close to a
half onto the half, and the second one sends all of them the same way, to the even neighbour.

Which of two neighbours a number goes to is told apart by the halves, so rounding is described here
by the halves that a number is taken up at. Rounding twice does the same with wider halves: two
further digits widen a half by a two hundredth of the unit on either side, and that is all they do.

The unit depends on the order of a number, and a rounded number may have reached the next order.
Both units can be taken there, so orders are replaced by decades with both ends.
-/

namespace DecimalCalculator

/-! ## Decades -/

/-- Whether a number lies in the decade that an order ends, with both powers of ten. -/
structure InDecade (number : ℚ) (order : ℤ) : Prop where
  reached : (10 : ℚ) ^ (order - 1) ≤ |number|
  within : |number| ≤ (10 : ℚ) ^ order

theorem HasOrder.inDecade {number : ℚ} {order : ℤ} (hasOrder : HasOrder number order) :
    InDecade number order :=
  ⟨hasOrder.reached, hasOrder.below.le⟩

theorem InDecade.ne_zero {number : ℚ} {order : ℤ} (inDecade : InDecade number order) :
    number ≠ 0 := by
  apply abs_pos.1
  exact lt_of_lt_of_le (by positivity) inDecade.reached

theorem InDecade.inv {number : ℚ} {order : ℤ} (inDecade : InDecade number order) :
    InDecade number⁻¹ (1 - order) := by
  have low : (10 : ℚ) ^ (1 - order - 1) = ((10 : ℚ) ^ order)⁻¹ := by
    rw [← zpow_neg]
    congr 1
    ring
  have high : (10 : ℚ) ^ (1 - order) = ((10 : ℚ) ^ (order - 1))⁻¹ := by
    rw [← zpow_neg, neg_sub]
  have positive : 0 < |number| := abs_pos.2 inDecade.ne_zero
  constructor
  · rw [low, abs_inv]
    exact inv_anti₀ positive inDecade.within
  · rw [high, abs_inv]
    exact inv_anti₀ (by positivity) inDecade.reached

theorem zpow_eq_mul {count : ℕ} {exponent small : ℤ} (split : exponent = count + small) :
    (10 : ℚ) ^ exponent = ((10 ^ count : ℤ) : ℚ) * (10 : ℚ) ^ small := by
  rw [split, zpow_add₀ Decimal.ten_ne_zero, zpow_natCast, Int.cast_pow, Int.cast_ofNat]

/-- The nearest integer is between integers that the number is between. -/
theorem IsNearest.abs_between {number : ℚ} {integer low high : ℤ}
    (nearest : IsNearest number integer) (reached : (low : ℚ) ≤ |number|)
    (within : |number| ≤ high) : low ≤ |integer| ∧ |integer| ≤ high := by
  have near := abs_le.1 ((abs_abs_sub_abs_le (integer : ℚ) number).trans nearest.near)
  rw [← Int.cast_abs] at near
  have above : (low : ℚ) < ((|integer| + 1 : ℤ) : ℚ) := by
    push_cast at near ⊢
    linarith
  have below : ((|integer| : ℤ) : ℚ) < ((high + 1 : ℤ) : ℚ) := by
    push_cast at near ⊢
    linarith
  have above : low < |integer| + 1 := by exact_mod_cast above
  have below : |integer| < high + 1 := by exact_mod_cast below
  omega

namespace RoundsTo

variable {precision : ℕ} {number rounded : ℚ} {order : ℤ}

theorem eq_of_multiple {index : ℤ} (hasOrder : HasOrder number order)
    (multiple : number = index * (10 : ℚ) ^ (order - precision))
    (rounds : RoundsTo precision number rounded) : rounded = number := by
  have unit : (10 : ℚ) ^ (order - precision) ≠ 0 := zpow_ne_zero _ Decimal.ten_ne_zero
  rcases rounds.exists_multiple hasOrder with ⟨other, nearest, rfl⟩
  rw [multiple, mul_div_cancel_right₀ _ unit] at nearest
  rw [multiple, nearest.unique (.of_eq index)]

/-- A power of ten is not changed by rounding. -/
theorem eq_of_abs_eq (keeps : 0 < precision) (power : |number| = (10 : ℚ) ^ order)
    (rounds : RoundsTo precision number rounded) : rounded = number := by
  have hasOrder : HasOrder number (order + 1) := by
    constructor
    · rw [add_sub_cancel_right, power]
    · rw [power]
      exact zpow_lt_zpow_right₀ (by norm_num) (by omega)
  have places : (10 : ℚ) ^ order =
      ((10 ^ (precision - 1) : ℤ) : ℚ) * (10 : ℚ) ^ (order + 1 - precision) :=
    zpow_eq_mul (by omega)
  rcases abs_eq (by positivity) |>.1 power with same | opposite
  · exact rounds.eq_of_multiple hasOrder (same.trans places)
  · apply rounds.eq_of_multiple hasOrder
    rw [opposite, places, ← neg_mul, ← Int.cast_neg]

/-- Rounding stays in a decade and goes to the nearest multiple of its unit. -/
theorem of_inDecade (rounds : RoundsTo precision number rounded) (keeps : 0 < precision)
    (inDecade : InDecade number order) :
    InDecade rounded order ∧
      ∃ index : ℤ, IsNearest (number / (10 : ℚ) ^ (order - precision)) index ∧
        rounded = index * (10 : ℚ) ^ (order - precision) := by
  have unit : (0 : ℚ) < 10 ^ (order - precision) := by positivity
  have first : (10 : ℚ) ^ (order - 1) =
      ((10 ^ (precision - 1) : ℤ) : ℚ) * 10 ^ (order - precision) := zpow_eq_mul (by omega)
  have last : (10 : ℚ) ^ order = ((10 ^ precision : ℤ) : ℚ) * 10 ^ (order - precision) :=
    zpow_eq_mul (by ring)
  rcases inDecade.within.lt_or_eq with below | power
  · rcases rounds.exists_multiple ⟨inDecade.reached, below⟩ with ⟨index, nearest, rfl⟩
    have reached : ((10 ^ (precision - 1) : ℤ) : ℚ) ≤
        |number / (10 : ℚ) ^ (order - precision)| := by
      rw [abs_div, abs_of_pos unit, le_div_iff₀ unit, ← first]
      exact inDecade.reached
    have within : |number / (10 : ℚ) ^ (order - precision)| ≤ ((10 ^ precision : ℤ) : ℚ) := by
      rw [abs_div, abs_of_pos unit, div_le_iff₀ unit, ← last]
      exact inDecade.within
    rcases nearest.abs_between reached within with ⟨low, high⟩
    refine ⟨?_, index, nearest, rfl⟩
    constructor
    · rw [abs_mul, abs_of_pos unit, first, ← Int.cast_abs]
      exact mul_le_mul_of_nonneg_right (by exact_mod_cast low) unit.le
    · rw [abs_mul, abs_of_pos unit, last, ← Int.cast_abs]
      exact mul_le_mul_of_nonneg_right (by exact_mod_cast high) unit.le
  · have kept := eq_of_abs_eq keeps power rounds
    subst kept
    refine ⟨inDecade, ?_⟩
    have multiple (index : ℤ) (same : rounded = index * (10 : ℚ) ^ (order - precision)) :
        IsNearest (rounded / (10 : ℚ) ^ (order - precision)) index := by
      rw [same, mul_div_cancel_right₀ _ unit.ne']
      exact .of_eq index
    rcases abs_eq (by positivity) |>.1 power with same | opposite
    · rw [last] at same
      exact ⟨_, multiple _ same, same⟩
    · rw [last, ← neg_mul, ← Int.cast_neg] at opposite
      exact ⟨_, multiple _ opposite, opposite⟩

/-- A rounded number is not changed by rounding it again. -/
theorem again {other : ℚ} (rounds : RoundsTo precision number rounded)
    (roundsAgain : RoundsTo precision rounded other) (keeps : 0 < precision) : other = rounded := by
  rcases eq_or_ne number 0 with rfl | nonzero
  · cases rounds with
    | zero => exact roundsAgain.unique .zero
    | multiple hasOrder nearest => exact absurd rfl hasOrder.ne_zero
  rcases exists_hasOrder nonzero with ⟨order, hasOrder⟩
  have unit : (10 : ℚ) ^ (order - precision) ≠ 0 := zpow_ne_zero _ Decimal.ten_ne_zero
  rcases rounds.of_inDecade keeps hasOrder.inDecade with ⟨inDecade, index, -, multiple⟩
  rcases roundsAgain.of_inDecade keeps inDecade with ⟨-, otherIndex, nearest, rfl⟩
  rw [multiple, mul_div_cancel_right₀ _ unit] at nearest
  rw [multiple, nearest.unique (.of_eq index)]

end RoundsTo

/-! ## Halves -/

/-- Whether a number is taken up at the half behind a multiple of a unit. All numbers that are no
further from the half than the margin are taken for it, and a half goes to the even multiple. -/
def GoesUpAt (unit margin : ℚ) (index : ℤ) (number : ℚ) : Prop :=
  if Even index then (index + 1 / 2) * unit + margin < number
  else (index + 1 / 2) * unit - margin ≤ number

/-- Whether a number and another one, which is rounded to two further digits first, go up at the
same halves. -/
def GoUpTogether (unit number other : ℚ) : Prop :=
  ∀ index : ℤ, GoesUpAt unit 0 index number ↔ GoesUpAt unit (unit / 200) index other

section Halves

variable {unit margin number : ℚ} {index integer : ℤ}

theorem goesUpAt_of_even (isEven : Even index) :
    GoesUpAt unit margin index number ↔ (index + 1 / 2) * unit + margin < number := by
  rw [GoesUpAt, if_pos isEven]

theorem goesUpAt_of_odd (isOdd : ¬Even index) :
    GoesUpAt unit margin index number ↔ (index + 1 / 2) * unit - margin ≤ number := by
  rw [GoesUpAt, if_neg isOdd]

/-- The half behind an even integer goes to that integer. -/
theorem IsNearest.lt_iff_of_even (nearest : IsNearest number integer) (isEven : Even index) :
    index < integer ↔ (index : ℚ) + 1 / 2 < number := by
  have near := abs_le.1 nearest.near
  constructor
  · intro beyond
    have next : (index : ℚ) + 1 ≤ integer := by exact_mod_cast Int.add_one_le_iff.2 beyond
    apply lt_of_le_of_ne (by linarith)
    intro half
    have same : (integer : ℚ) = ((index + 1 : ℤ) : ℚ) := by
      push_cast
      linarith
    have tie : |(integer : ℚ) - number| = 1 / 2 := by
      rw [← half, same]
      push_cast
      norm_num
    have successor : integer = index + 1 := by exact_mod_cast same
    have nextEven := nearest.evenTie tie
    rw [successor, Int.even_add_one] at nextEven
    exact nextEven isEven
  · intro above
    by_contra notBeyond
    have behind : (integer : ℚ) ≤ index := by exact_mod_cast not_lt.1 notBeyond
    linarith

/-- The half behind an odd integer goes to the next one. -/
theorem IsNearest.lt_iff_of_odd (nearest : IsNearest number integer) (isOdd : ¬Even index) :
    index < integer ↔ (index : ℚ) + 1 / 2 ≤ number := by
  have near := abs_le.1 nearest.near
  constructor
  · intro beyond
    have next : (index : ℚ) + 1 ≤ integer := by exact_mod_cast Int.add_one_le_iff.2 beyond
    linarith
  · intro above
    by_contra notBeyond
    have behind : (integer : ℚ) ≤ index := by exact_mod_cast not_lt.1 notBeyond
    have same : (integer : ℚ) = index := by linarith
    have tie : |(integer : ℚ) - number| = 1 / 2 := by
      have half : number = index + 1 / 2 := by linarith
      rw [half, same]
      norm_num
    have equal : integer = index := by exact_mod_cast same
    exact isOdd (equal ▸ nearest.evenTie tie)

/-- The nearest multiple lies beyond exactly the halves at which the number goes up. -/
theorem IsNearest.lt_iff (nearest : IsNearest (number / unit) integer) (positive : 0 < unit)
    (index : ℤ) : index < integer ↔ GoesUpAt unit 0 index number := by
  by_cases isEven : Even index
  · rw [goesUpAt_of_even isEven, add_zero, ← lt_div_iff₀ positive]
    exact nearest.lt_iff_of_even isEven
  · rw [goesUpAt_of_odd isEven, sub_zero, ← le_div_iff₀ positive]
    exact nearest.lt_iff_of_odd isEven

theorem goesUpAt_of_lt (nonnegative : 0 ≤ margin)
    (above : (index + 1 / 2) * unit + margin < number) : GoesUpAt unit margin index number := by
  rw [GoesUpAt]
  split
  · exact above
  · linarith

theorem not_goesUpAt_of_lt (nonnegative : 0 ≤ margin)
    (below : number < (index + 1 / 2) * unit - margin) : ¬GoesUpAt unit margin index number := by
  rw [GoesUpAt]
  split <;> linarith

/-- Rounding to two further digits before the digits that are kept widens the halves. The hundredths
around a half that the first rounding brings to the half are those of an even index. -/
theorem lt_iff_of_twice {first second : ℤ} (nearest : IsNearest (number / (unit / 100)) first)
    (nearestAgain : IsNearest (first * (unit / 100) / unit) second) (positive : 0 < unit)
    (index : ℤ) : index < second ↔ GoesUpAt unit (unit / 200) index number := by
  have hundredth : 0 < unit / 100 := by positivity
  have half : ((index : ℚ) + 1 / 2) * unit = ((100 * index + 50 : ℤ) : ℚ) * (unit / 100) := by
    push_cast
    ring
  rw [nearestAgain.lt_iff positive index]
  by_cases isEven : Even index
  · have beyond := nearest.lt_iff hundredth (100 * index + 50)
    rw [goesUpAt_of_even (by grind), add_zero] at beyond
    have widened : (((100 * index + 50 : ℤ) : ℚ) + 1 / 2) * (unit / 100) =
        (index + 1 / 2) * unit + unit / 200 := by
      push_cast
      ring
    rw [goesUpAt_of_even isEven, goesUpAt_of_even isEven, add_zero, half,
      mul_lt_mul_iff_left₀ hundredth, Int.cast_lt, beyond, widened, half]
  · have reached := nearest.lt_iff hundredth (100 * index + 49)
    rw [goesUpAt_of_odd (by grind), sub_zero] at reached
    have widened : (((100 * index + 49 : ℤ) : ℚ) + 1 / 2) * (unit / 100) =
        (index + 1 / 2) * unit - unit / 200 := by
      push_cast
      ring
    have before : 100 * index + 50 ≤ first ↔ 100 * index + 49 < first := by omega
    rw [goesUpAt_of_odd isEven, goesUpAt_of_odd isEven, sub_zero, half,
      mul_le_mul_iff_left₀ hundredth, Int.cast_le, before, reached, widened, half]

/-- Numbers close to each other go up at the same halves if those are not close to them. -/
theorem goesUpAt_iff_of_far {other : ℚ} (positive : 0 < unit) (close : |other - number| ≤ unit / 20)
    (far : unit / 10 ≤ |number - (index + 1 / 2) * unit|) :
    GoesUpAt unit 0 index number ↔ GoesUpAt unit (unit / 200) index other := by
  have margin : 0 ≤ unit / 200 := by positivity
  rw [abs_le] at close
  rcases le_abs.1 far with above | below
  · apply iff_of_true
    · exact goesUpAt_of_lt le_rfl (by linarith)
    · exact goesUpAt_of_lt margin (by linarith)
  · apply iff_of_false
    · exact not_goesUpAt_of_lt le_rfl (by linarith)
    · exact not_goesUpAt_of_lt margin (by linarith)

/-- Two multiples are the same exactly if they lie beyond the same halves. -/
theorem eq_iff_goUpTogether {other : ℚ} {first second : ℤ}
    (firstHalves : ∀ index, index < first ↔ GoesUpAt unit 0 index number)
    (secondHalves : ∀ index, index < second ↔ GoesUpAt unit (unit / 200) index other) :
    second = first ↔ GoUpTogether unit number other := by
  constructor
  · rintro rfl index
    rw [← firstHalves, ← secondHalves]
  · intro together
    apply eq_of_forall_lt_iff
    intro index
    rw [firstHalves, secondHalves, together]

/-- Numbers close to each other do not go beyond the same half and the one after it. -/
theorem le_add_one_of_close {other : ℚ} {first second : ℤ} (positive : 0 < unit)
    (close : |other - number| ≤ unit / 20)
    (firstHalves : ∀ index, index < first ↔ GoesUpAt unit 0 index number)
    (secondHalves : ∀ index, index < second ↔ GoesUpAt unit (unit / 200) index other) :
    |second - first| ≤ 1 := by
  have margin : 0 ≤ unit / 200 := by positivity
  have firstBelow := mt (goesUpAt_of_lt le_rfl) fun above =>
    lt_irrefl _ ((firstHalves first).2 above)
  have secondBelow := mt (goesUpAt_of_lt margin) fun above =>
    lt_irrefl _ ((secondHalves second).2 above)
  rw [not_lt] at firstBelow secondBelow
  rw [abs_le] at close ⊢
  constructor
  · by_contra apart
    have further : second + 1 < first := by omega
    have reached := not_lt.1 fun below =>
      not_goesUpAt_of_lt le_rfl below ((firstHalves (second + 1)).1 further)
    push_cast at reached
    linarith
  · by_contra apart
    have further : first + 1 < second := by omega
    have reached := not_lt.1 fun below =>
      not_goesUpAt_of_lt margin below ((secondHalves (first + 1)).1 further)
    push_cast at reached
    linarith

end Halves

/-! ## Reciprocals -/

section Reciprocal

variable {precision : ℕ} {base working reciprocal twice once : ℚ} {order : ℤ}

theorem inDecade_inv_of_rounds (keeps : 0 < precision) (inDecade : InDecade base⁻¹ order)
    (rounds : RoundsTo precision base working) : InDecade working⁻¹ order := by
  have baseDecade := inDecade.inv
  rw [inv_inv] at baseDecade
  have workingDecade := (rounds.of_inDecade keeps baseDecade).1.inv
  rwa [sub_sub_cancel] at workingDecade

/-- The reciprocal of a number that is rounded to two further digits is off by no more than a
twentieth of the unit. -/
theorem abs_inv_sub_inv_le (inDecade : InDecade base⁻¹ order)
    (rounds : RoundsTo (precision + 2) base working) :
    |working⁻¹ - base⁻¹| ≤ (10 : ℚ) ^ (order - precision) / 20 := by
  have workingDecade := inDecade_inv_of_rounds (Nat.succ_pos _) inDecade rounds
  have baseNonzero : base ≠ 0 := mt inv_eq_zero.2 inDecade.ne_zero
  have workingNonzero : working ≠ 0 := mt inv_eq_zero.2 workingDecade.ne_zero
  have places : roundingError (precision + 2) * (10 : ℚ) ^ order =
      (10 : ℚ) ^ (order - precision) / 20 := by
    have split : 1 - ((precision + 2 : ℕ) : ℤ) + order = order - precision - 1 := by
      push_cast
      ring
    rw [roundingError, div_mul_eq_mul_div, ← zpow_add₀ Decimal.ten_ne_zero, split,
      zpow_sub_one₀ Decimal.ten_ne_zero]
    ring
  calc
    |working⁻¹ - base⁻¹| = |working - base| * |base⁻¹| * |working⁻¹| := by
      rw [inv_sub_inv workingNonzero baseNonzero, abs_div, abs_mul, abs_sub_comm, abs_inv, abs_inv,
        div_eq_mul_inv, mul_inv]
      ring
    _ ≤ roundingError (precision + 2) * |base| * |base⁻¹| * |working⁻¹| := by
      gcongr
      exact rounds.abs_sub_le
    _ = roundingError (precision + 2) * |working⁻¹| := by
      rw [mul_assoc _ |base|, ← abs_mul, mul_inv_cancel₀ baseNonzero, abs_one, mul_one]
    _ ≤ roundingError (precision + 2) * (10 : ℚ) ^ order :=
      mul_le_mul_of_nonneg_left workingDecade.within (roundingError_nonneg _)
    _ = (10 : ℚ) ^ (order - precision) / 20 := places

/-- A reciprocal that is taken of a rounded number and rounded twice, and the one that is rounded
once, both by the halves that they lie beyond. -/
theorem exists_reciprocal_indices (keeps : 0 < precision) (inDecade : InDecade base⁻¹ order)
    (roundsBase : RoundsTo (precision + 2) base working)
    (roundsReciprocal : RoundsTo (precision + 2) working⁻¹ reciprocal)
    (roundsTwice : RoundsTo precision reciprocal twice)
    (roundsOnce : RoundsTo precision base⁻¹ once) :
    ∃ second first : ℤ, twice = second * (10 : ℚ) ^ (order - precision) ∧
      once = first * (10 : ℚ) ^ (order - precision) ∧
      (∀ index, index < second ↔ GoesUpAt ((10 : ℚ) ^ (order - precision))
        ((10 : ℚ) ^ (order - precision) / 200) index working⁻¹) ∧
      ∀ index, index < first ↔ GoesUpAt ((10 : ℚ) ^ (order - precision)) 0 index base⁻¹ := by
  have unit : (0 : ℚ) < 10 ^ (order - precision) := by positivity
  have workingKeeps : 0 < precision + 2 := Nat.succ_pos _
  have hundredth : (10 : ℚ) ^ (order - (precision + 2 : ℕ)) = 10 ^ (order - precision) / 100 := by
    have split : order - (precision + 2 : ℕ) = order - precision - (2 : ℕ) := by
      push_cast
      ring
    rw [split, zpow_sub₀ Decimal.ten_ne_zero, zpow_natCast]
    norm_num
  have workingDecade := inDecade_inv_of_rounds workingKeeps inDecade roundsBase
  rcases roundsReciprocal.of_inDecade workingKeeps workingDecade with
    ⟨reciprocalDecade, hundredths, nearest, multiple⟩
  rcases roundsTwice.of_inDecade keeps reciprocalDecade with ⟨-, second, nearestAgain, same⟩
  rcases roundsOnce.of_inDecade keeps inDecade with ⟨-, first, nearestOnce, sameOnce⟩
  rw [hundredth] at nearest multiple
  rw [multiple] at nearestAgain
  exact ⟨second, first, same, sameOnce, lt_iff_of_twice nearest nearestAgain unit,
    nearestOnce.lt_iff unit⟩

end Reciprocal

end DecimalCalculator
