import DecimalCalculator.Proofs.Decimal.DoubleRounding
import DecimalCalculator.Proofs.Decimal.SameNumber

/-!
# Laws of rounding

Rounding takes a decimal to the nearest multiple of its unit, a half to the even one, and what it
gives is determined by the number of the decimal. As a function of numbers it keeps their order, is
odd, and changes nothing that has been rounded before.

The order is the law that is not local. Two numbers of different orders are rounded to different
units, and the smaller one may carry over into the order of the larger one. A power of ten between
them is what keeps them apart: it is a multiple of both units, so neither rounding crosses it. This
needs at least one digit that is kept.
-/

namespace DecimalCalculator

namespace RoundsTo

variable {precision : ℕ} {number other rounded otherRounded : ℚ}

theorem nonneg (rounds : RoundsTo precision number rounded) (nonnegative : 0 ≤ number) :
    0 ≤ rounded := by
  cases rounds with
  | zero => exact le_rfl
  | @multiple _ order index hasOrder nearest =>
      have unit : (0 : ℚ) < 10 ^ (order - precision) := by positivity
      have zero : IsNearest 0 0 := by simpa using IsNearest.of_eq 0
      have indexNonneg : 0 ≤ index := zero.mono nearest (div_nonneg nonnegative unit.le)
      exact mul_nonneg (Int.cast_nonneg indexNonneg) unit.le

theorem nonpos (rounds : RoundsTo precision number rounded) (nonpositive : number ≤ 0) :
    rounded ≤ 0 := by
  have opposite := rounds.neg.nonneg (neg_nonneg.2 nonpositive)
  exact neg_nonneg.1 opposite

/-- Positive numbers of one order are rounded to multiples of one unit. Between numbers of two
orders lies a power of ten, which no rounding crosses. -/
theorem mono_of_pos (rounds : RoundsTo precision number rounded)
    (otherRounds : RoundsTo precision other otherRounded) (keeps : 0 < precision)
    (positive : 0 < number) (ordered : number ≤ other) : rounded ≤ otherRounded := by
  have otherPositive := positive.trans_le ordered
  rcases exists_hasOrder positive.ne' with ⟨order, hasOrder⟩
  rcases exists_hasOrder otherPositive.ne' with ⟨otherOrder, hasOther⟩
  rcases rounds.of_inDecade keeps hasOrder.inDecade with ⟨inDecade, index, nearest, multiple⟩
  rcases otherRounds.of_inDecade keeps hasOther.inDecade with
    ⟨otherDecade, otherIndex, otherNearest, otherMultiple⟩
  have orders : order ≤ otherOrder := by
    apply hasOrder.mono hasOther
    rwa [abs_of_pos positive, abs_of_pos otherPositive]
  rcases orders.eq_or_lt with rfl | apart
  · have unit : (0 : ℚ) < 10 ^ (order - precision) := by positivity
    have indices : index ≤ otherIndex :=
      nearest.mono otherNearest (div_le_div_of_nonneg_right ordered unit.le)
    rw [multiple, otherMultiple]
    exact mul_le_mul_of_nonneg_right (Int.cast_le.2 indices) unit.le
  · -- The power of ten below the larger number is a multiple of both units.
    calc
      rounded ≤ |rounded| := le_abs_self rounded
      _ ≤ (10 : ℚ) ^ order := inDecade.within
      _ ≤ (10 : ℚ) ^ (otherOrder - 1) := zpow_le_zpow_right₀ (by norm_num) (by omega)
      _ ≤ |otherRounded| := otherDecade.reached
      _ = otherRounded := abs_of_nonneg (otherRounds.nonneg otherPositive.le)

/-- Rounding keeps the order of numbers. -/
theorem mono (rounds : RoundsTo precision number rounded)
    (otherRounds : RoundsTo precision other otherRounded) (keeps : 0 < precision)
    (ordered : number ≤ other) : rounded ≤ otherRounded := by
  rcases lt_or_ge 0 number with positive | nonpositive
  · exact rounds.mono_of_pos otherRounds keeps positive ordered
  rcases lt_or_ge other 0 with negative | nonnegative
  · have opposites := otherRounds.neg.mono_of_pos rounds.neg keeps (neg_pos.2 negative)
      (neg_le_neg ordered)
    exact neg_le_neg_iff.1 opposites
  · exact (rounds.nonpos nonpositive).trans (otherRounds.nonneg nonnegative)

end RoundsTo

namespace Decimal

variable {precision : ℕ} {value other : Decimal}

/-- Zero is rounded to zero, and any other decimal to the nearest multiple of the unit that its
order gives. -/
theorem exists_multiple_round {order : ℤ} (precision : ℕ)
    (hasOrder : ¬value.isZero → HasOrder value.toRat order) :
    ∃ index : ℤ, (value.round precision).toRat = index * (10 : ℚ) ^ (order - precision) ∧
      |(value.round precision).toRat - value.toRat| ≤ (10 : ℚ) ^ (order - precision) / 2 ∧
      (|(value.round precision).toRat - value.toRat| = (10 : ℚ) ^ (order - precision) / 2 →
        Even index) := by
  have rounds := roundsTo_round precision value
  by_cases isZero : value.isZero
  · rw [toRat_of_isZero isZero] at rounds ⊢
    rw [rounds.unique .zero]
    refine ⟨0, by simp, ?_, fun _ => Even.zero⟩
    rw [sub_self, abs_zero]
    positivity
  · exact rounds.exists_multiple_near (hasOrder isZero)

/-- Rounding is to the nearest number, a half to even, and looks at numbers only. Every decimal
other than zero has an order; whatever the order of a decimal is, what it is rounded to is a
multiple of the unit, half a unit away at most, and an even multiple if it is half a unit away. All
decimals of one number are rounded to one number. -/
theorem round_nearest (precision : ℕ) (value : Decimal) :
    (¬value.isZero → ∃ order, HasOrder value.toRat order) ∧
      (∀ order : ℤ, (¬value.isZero → HasOrder value.toRat order) →
        ∃ index : ℤ, (value.round precision).toRat = index * (10 : ℚ) ^ (order - precision) ∧
          |(value.round precision).toRat - value.toRat| ≤ (10 : ℚ) ^ (order - precision) / 2 ∧
          (|(value.round precision).toRat - value.toRat| = (10 : ℚ) ^ (order - precision) / 2 →
            Even index)) ∧
      ∀ other : Decimal, other.toRat = value.toRat →
        (other.round precision).toRat = (value.round precision).toRat := by
  refine ⟨?_, ?_, ?_⟩
  · intro nonzero
    exact ⟨value.order, hasOrder_toRat nonzero⟩
  · intro order hasOrder
    exact exists_multiple_round precision hasOrder
  · intro other same
    exact SameNumber.round same precision

/-- A negative half, written with a zero at the end. -/
theorem round_nearest_negative_half :
    HasOrder (toRat ⟨-1250, 3⟩) 1 ∧
      (∃ index : ℤ, (round 2 ⟨-1250, 3⟩).toRat = index * (10 : ℚ) ^ ((1 : ℤ) - (2 : ℕ)) ∧
        |(round 2 ⟨-1250, 3⟩).toRat - toRat ⟨-1250, 3⟩| ≤ (10 : ℚ) ^ ((1 : ℤ) - (2 : ℕ)) / 2 ∧
        (|(round 2 ⟨-1250, 3⟩).toRat - toRat ⟨-1250, 3⟩| = (10 : ℚ) ^ ((1 : ℤ) - (2 : ℕ)) / 2 →
          Even index)) ∧
      toRat ⟨-125, 2⟩ = toRat ⟨-1250, 3⟩ ∧
      (round 2 ⟨-125, 2⟩).toRat = (round 2 ⟨-1250, 3⟩).toRat := by
  have hasOrder : HasOrder (toRat ⟨-1250, 3⟩) 1 := @hasOrder_toRat ⟨-1250, 3⟩ (by decide)
  have same : toRat ⟨-125, 2⟩ = toRat ⟨-1250, 3⟩ := by norm_num [toRat]
  rcases round_nearest 2 ⟨-1250, 3⟩ with ⟨-, nearest, determined⟩
  exact ⟨hasOrder, nearest 1 fun _ => hasOrder, same, determined _ same⟩

example : round 2 ⟨-1250, 3⟩ = ⟨-12, 1⟩ ∧ round 2 ⟨-1350, 3⟩ = ⟨-14, 1⟩ := by decide

/-- Rounding to at least one digit keeps the order of numbers, takes opposites to opposites, and
changes nothing when it is repeated, also where it has carried over into a further digit. -/
theorem round_mono_odd_idem (keeps : 0 < precision) :
    (∀ value other : Decimal, value.toRat ≤ other.toRat →
        (value.round precision).toRat ≤ (other.round precision).toRat) ∧
      (∀ value other : Decimal, other.toRat = -value.toRat →
        (other.round precision).toRat = -(value.round precision).toRat) ∧
      ∀ value : Decimal,
        ((value.round precision).round precision).toRat = (value.round precision).toRat := by
  refine ⟨?_, ?_, ?_⟩
  · intro value other ordered
    exact (roundsTo_round precision value).mono (roundsTo_round precision other) keeps ordered
  · intro value other opposite
    have rounds := roundsTo_round precision other
    rw [opposite] at rounds
    exact rounds.unique (roundsTo_round precision value).neg
  · intro value
    exact (roundsTo_round precision value).again (roundsTo_round precision _) keeps

/-- The smaller number has a digit more behind the point and carries over to ten. -/
theorem round_mono_odd_idem_carried :
    0 < 2 ∧ toRat ⟨9951, 3⟩ ≤ toRat ⟨1004, 2⟩ ∧
      (round 2 ⟨9951, 3⟩).toRat ≤ (round 2 ⟨1004, 2⟩).toRat ∧
      toRat ⟨-99510, 4⟩ = -toRat ⟨9951, 3⟩ ∧
      (round 2 ⟨-99510, 4⟩).toRat = -(round 2 ⟨9951, 3⟩).toRat ∧
      ((round 2 ⟨9951, 3⟩).round 2).toRat = (round 2 ⟨9951, 3⟩).toRat := by
  have ordered : toRat ⟨9951, 3⟩ ≤ toRat ⟨1004, 2⟩ := by norm_num [toRat]
  have opposite : toRat ⟨-99510, 4⟩ = -toRat ⟨9951, 3⟩ := by norm_num [toRat]
  rcases @round_mono_odd_idem 2 (by decide) with ⟨mono, odd, idem⟩
  exact ⟨by decide, ordered, mono _ _ ordered, opposite, odd _ _ opposite, idem _⟩

example : round 2 ⟨9951, 3⟩ = ⟨100, 1⟩ ∧ round 2 ⟨100, 1⟩ = ⟨10, 0⟩ := by decide

/-- Without a digit that is kept the order is lost: six tenths become one, and one becomes zero. -/
example : round 0 ⟨6, 1⟩ = ⟨1, 0⟩ ∧ round 0 ⟨1, 0⟩ = ⟨0, -1⟩ := by decide

end Decimal

end DecimalCalculator
