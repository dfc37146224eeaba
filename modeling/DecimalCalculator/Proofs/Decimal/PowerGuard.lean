import DecimalCalculator.Proofs.Decimal.DoubleRounding
import DecimalCalculator.Proofs.Decimal.Scale

/-!
# The guards of powers are enough

A power of a base other than zero that passes the two guards, on the exponent and on the order of
the result, has a value. No decimal on its way is zero, so the reciprocal for a negative exponent
finds a divisor, and no scale on its way comes near the largest word of 64 bits.

The guards look at the base and the exponent only, and the loop multiplies up to sixty times. What
carries over from one product to the next is how far the orders reach from zero: the accumulator and
the base together, the base as many times as the exponent still says, never reach further than at
the start. This also covers a base just below one, whose order is zero or negative, as the distance
from zero counts one more for the order that a product or a rounding can add or lose.
-/

namespace DecimalCalculator

/-- A number other than zero is not rounded to zero if a digit is kept. -/
theorem RoundsTo.ne_zero {precision : ℕ} {number rounded : ℚ}
    (rounds : RoundsTo precision number rounded) (keeps : 0 < precision) (nonzero : number ≠ 0) :
    rounded ≠ 0 := by
  rcases exists_hasOrder nonzero with ⟨order, hasOrder⟩
  exact (rounds.of_inDecade keeps hasOrder.inDecade).1.ne_zero

namespace Decimal

variable {precision : ℕ}

theorem not_isZero_of_div {dividend divisor quotient : Decimal} (keeps : 0 < precision)
    (dividendNonzero : ¬dividend.isZero) (divisorNonzero : ¬divisor.isZero)
    (divided : dividend.div precision divisor = .ok quotient) : ¬quotient.isZero := by
  rw [← toRat_eq_zero_iff] at dividendNonzero divisorNonzero ⊢
  exact (roundsTo_div divided).ne_zero keeps (div_ne_zero dividendNonzero divisorNonzero)

/-! ## The decimals that the loop holds -/

/-- The accumulators and the bases that the loop of a power holds, in the order in which they are
computed. The last one is the power. -/
def powerLoopFactors (precision exponent : ℕ) (accumulator base : Decimal) : List Decimal :=
  if exponent = 0 then [accumulator]
  else
    accumulator :: base ::
      if exponent / 2 = 0 then [accumulated precision exponent accumulator base]
      else
        powerLoopFactors precision (exponent / 2) (accumulated precision exponent accumulator base)
          ((base.mulTrimmed base).round precision)
termination_by exponent

theorem powerLoopFactors_of_pos {exponent : ℕ} (positive : exponent ≠ 0)
    (accumulator base : Decimal) :
    powerLoopFactors precision exponent accumulator base =
      accumulator :: base ::
        if exponent / 2 = 0 then [accumulated precision exponent accumulator base]
        else powerLoopFactors precision (exponent / 2)
          (accumulated precision exponent accumulator base)
          ((base.mulTrimmed base).round precision) := by
  rw [powerLoopFactors, if_neg positive]

theorem getLast?_powerLoopFactors (precision exponent : ℕ) (accumulator base : Decimal) :
    (powerLoopFactors precision exponent accumulator base).getLast? =
      some (powerLoop precision exponent accumulator base) := by
  induction exponent using Nat.strong_induction_on generalizing accumulator base with
  | h exponent ih =>
    by_cases positive : exponent = 0
    · simp [powerLoopFactors, powerLoop, positive]
    rw [powerLoopFactors_of_pos positive, powerLoop_of_pos positive]
    split
    next last => rfl
    next more =>
      have rest := ih (exponent / 2) (by omega)
        (accumulated precision exponent accumulator base) ((base.mulTrimmed base).round precision)
      simp [List.getLast?_cons, rest]

theorem powerLoop_mem_powerLoopFactors (precision exponent : ℕ) (accumulator base : Decimal) :
    powerLoop precision exponent accumulator base ∈
      powerLoopFactors precision exponent accumulator base :=
  List.mem_of_getLast? (getLast?_powerLoopFactors precision exponent accumulator base)

/-- What the loop of a power holds is not zero, and reaches no further than the accumulator at the
start and as many bases as the exponent says. -/
theorem powerLoopFactors_bounds (keeps : 0 < precision) (exponent : ℕ) {accumulator base : Decimal}
    (factor : IsFactor precision accumulator) (based : IsFactor precision base) :
    ∀ held ∈ powerLoopFactors precision exponent accumulator base,
      IsFactor precision held ∧ reach held ≤ reach accumulator + exponent * reach base := by
  induction exponent using Nat.strong_induction_on generalizing accumulator base with
  | h exponent ih =>
    intro held member
    by_cases positive : exponent = 0
    · rw [powerLoopFactors, if_pos positive, List.mem_singleton] at member
      subst member
      exact ⟨factor, Nat.le_add_right _ _⟩
    have halves := mul_halves exponent (reach base)
    have once : reach base ≤ exponent * reach base :=
      Nat.le_mul_of_pos_left _ (Nat.pos_of_ne_zero positive)
    rcases factor.accumulated_bounds based keeps exponent with ⟨product, reached, -⟩
    rw [powerLoopFactors_of_pos positive] at member
    rcases List.mem_cons.1 member with rfl | member
    · exact ⟨factor, Nat.le_add_right _ _⟩
    rcases List.mem_cons.1 member with rfl | member
    · exact ⟨based, by omega⟩
    split at member
    next last =>
      rw [List.mem_singleton.1 member]
      exact ⟨product, by omega⟩
    next more =>
      have square := based.mul based keeps
      have squareReached := (based.reach_mul_le based keeps).2
      have doubled := Nat.mul_le_mul_left (exponent / 2) squareReached
      rcases ih (exponent / 2) (by omega) product square held member with ⟨isFactor, within⟩
      exact ⟨isFactor, by omega⟩

/-! ## Powers behind the guards -/

section Guards

variable {context : Context} {base power : Decimal} {exponent : ℤ}

theorem PassesGuards.powerLoopFactors_bounds (passes : PassesGuards base exponent)
    (nonzero : ¬base.isZero) (precise : context.precision ≤ Context.maximalPrecision) :
    ∀ factor ∈ powerLoopFactors (powerPrecision context exponent) exponent.natAbs one
      (base.round (powerPrecision context exponent)),
      ¬factor.isZero ∧ factor.scale.natAbs ≤ powerScaleBound := by
  have limits := power_limits
  have keeps := powerPrecision_pos context exponent
  have working := passes.powerPrecision_le precise
  have within := passes.reach_le nonzero keeps
  intro factor member
  rcases Decimal.powerLoopFactors_bounds keeps exponent.natAbs (isFactor_one _)
    (isFactor_round keeps nonzero) factor member with ⟨isFactor, reached⟩
  have short := isFactor.short
  have scale := natAbs_scale_le factor
  rw [reach] at reached
  exact ⟨isFactor.nonzero, by omega⟩

/-- What is left to do after the loop succeeds on a power that is not zero, and leaves it so. -/
theorem exists_lastStep (keeps : 0 < precision) (contextKeeps : 0 < context.precision)
    (nonzero : ¬power.isZero) (exponent : ℤ) :
    ∃ result, lastStep context precision exponent power = .ok result ∧ ¬result.isZero := by
  rw [lastStep]
  split
  next negative =>
    rcases exists_div nonzero one precision with ⟨reciprocal, divided⟩
    have reciprocalNonzero := not_isZero_of_div keeps (by decide) nonzero divided
    rw [divided]
    exact ⟨_, rfl, not_isZero_round contextKeeps reciprocalNonzero⟩
  next => exact ⟨_, rfl, not_isZero_round contextKeeps nonzero⟩

theorem PassesGuards.exists_pow (passes : PassesGuards base exponent) (nonzero : ¬base.isZero)
    (contextKeeps : 0 < context.precision)
    (precise : context.precision ≤ Context.maximalPrecision) :
    ∃ result, base.pow context exponent = .ok result ∧ ¬result.isZero := by
  have powerNonzero := (passes.powerLoopFactors_bounds nonzero precise _
    (powerLoop_mem_powerLoopFactors _ _ _ _)).1
  rw [passes.pow_eq]
  exact exists_lastStep (powerPrecision_pos context exponent) contextKeeps powerNonzero exponent

/-- The guards of a power are enough for a base other than zero. All scales that the power computes,
and those of all accumulators and bases that its loop holds, are bounded far below the largest word
of 64 bits; no accumulator and no base becomes zero; and the power has a value, which is not
zero. -/
theorem pow_of_guards (nonzero : ¬base.isZero) (contextKeeps : 0 < context.precision)
    (precise : context.precision ≤ Context.maximalPrecision)
    (small : exponent.natAbs ≤ exponentLimit)
    (bounded : base.order.natAbs * exponent.natAbs ≤ orderLimit) :
    (∀ scale ∈ powScales context base exponent,
        scale.natAbs ≤ powerScaleBound ∧ -(twoTo 63 : ℤ) ≤ scale ∧ scale < twoTo 63) ∧
      (∀ factor ∈ powerLoopFactors (powerPrecision context exponent) exponent.natAbs one
          (base.round (powerPrecision context exponent)),
        ¬factor.isZero ∧ factor.scale.natAbs ≤ powerScaleBound) ∧
      ∃ result, base.pow context exponent = .ok result ∧ ¬result.isZero ∧
        result.scale.natAbs ≤ powerScaleBound := by
  have word : powerScaleBound < twoTo 63 := by decide
  have unscaled : base.isZero → base = zero := fun isZero => absurd isZero nonzero
  rcases powScales_bounds contextKeeps precise unscaled with ⟨scales, results⟩
  refine ⟨?_, ?_, ?_⟩
  · intro scale member
    have within := scales scale member
    exact ⟨within, by omega, by omega⟩
  · by_cases zero : exponent = 0
    · subst zero
      intro factor member
      rw [Int.natAbs_zero, powerLoopFactors, if_pos rfl, List.mem_singleton] at member
      subst member
      exact ⟨by decide, Nat.zero_le _⟩
    · exact PassesGuards.powerLoopFactors_bounds ⟨zero, small, fun _ => bounded⟩ nonzero precise
  · by_cases zero : exponent = 0
    · subst zero
      exact ⟨one, pow_exponent_zero context base, by decide, Nat.zero_le _⟩
    · have passes : PassesGuards base exponent := ⟨zero, small, fun _ => bounded⟩
      rcases passes.exists_pow nonzero contextKeeps precise with ⟨result, raised, resultNonzero⟩
      exact ⟨result, raised, resultNonzero, (results result raised).2⟩

/-- A base just below one, of order zero, raised to the smallest exponent. -/
theorem pow_of_guards_below_one :
    ¬(⟨-999, 3⟩ : Decimal).isZero ∧ 0 < Context.default.precision ∧
      Context.default.precision ≤ Context.maximalPrecision ∧
      (-999999999 : ℤ).natAbs ≤ exponentLimit ∧
      (⟨-999, 3⟩ : Decimal).order.natAbs * (-999999999 : ℤ).natAbs ≤ orderLimit ∧
      (∀ scale ∈ powScales Context.default ⟨-999, 3⟩ (-999999999),
        scale.natAbs ≤ powerScaleBound ∧ -(twoTo 63 : ℤ) ≤ scale ∧ scale < twoTo 63) ∧
      ∃ result, (⟨-999, 3⟩ : Decimal).pow Context.default (-999999999) = .ok result ∧
        ¬result.isZero ∧ result.scale.natAbs ≤ powerScaleBound := by
  have nonzero : ¬(⟨-999, 3⟩ : Decimal).isZero := by decide
  have keeps : 0 < Context.default.precision := by decide
  have precise : Context.default.precision ≤ Context.maximalPrecision := by decide
  have small : (-999999999 : ℤ).natAbs ≤ exponentLimit := by decide
  have bounded : (⟨-999, 3⟩ : Decimal).order.natAbs * (-999999999 : ℤ).natAbs ≤ orderLimit := by
    decide
  rcases pow_of_guards nonzero keeps precise small bounded with ⟨scales, -, raised⟩
  exact ⟨nonzero, keeps, precise, small, bounded, scales, raised⟩

end Guards

end Decimal

end DecimalCalculator
