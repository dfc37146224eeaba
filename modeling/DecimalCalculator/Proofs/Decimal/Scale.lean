import DecimalCalculator.Decimal.Scale
import DecimalCalculator.Proofs.Decimal.Order

/-!
# Bounds on the scales that operations compute

A machine holds a scale in a word, so it matters how large the scales become that are computed on
the way to a result.

A product, a rounding and a quotient move scales by no more than the scales and the digits of their
operands. A power multiplies many times, but each product is rounded to a few digits again, and the
order of a product is the sum of the orders. The order is therefore what grows, in proportion to the
exponent, and the bound on the order of a power bounds all scales on the way. Zero has no order, and
the scales of its powers are not bounded in this way, unless its own scale is zero.
-/

namespace DecimalCalculator.Decimal

/-! ## Single operations -/

variable {precision : ℕ} {value left right dividend divisor : Decimal} {scale : ℤ}

theorem mem_roundScales (member : scale ∈ roundScales precision value) :
    scale = (value.round precision).scale ∧ scale.natAbs ≤ value.scale.natAbs + value.digits := by
  rw [roundScales] at member
  split at member
  · cases member
  next long =>
    rw [List.mem_singleton.1 member, round_of_long (Nat.lt_of_not_le long)]
    refine ⟨rfl, ?_⟩
    omega

theorem scale_round (precision : ℕ) (value : Decimal) :
    (value.round precision).scale = value.scale ∨
      (value.round precision).scale ∈ roundScales precision value := by
  rcases Nat.lt_or_ge precision value.digits with long | short
  · right
    rw [roundScales, if_neg (Nat.not_le_of_lt long), round_of_long long]
    exact List.mem_singleton_self _
  · left
    rw [round_of_digits_le short]

theorem natAbs_scale_round_le (precision : ℕ) (value : Decimal) :
    (value.round precision).scale.natAbs ≤ value.scale.natAbs + value.digits := by
  rcases scale_round precision value with same | member
  · omega
  · exact (mem_roundScales member).2

theorem natAbs_scale_trimmed_le (value : Decimal) :
    value.trimmed.scale.natAbs ≤ value.scale.natAbs + value.digits := by
  rw [trimmed]
  split
  · exact Nat.zero_le _
  · have zeros : trailingZeros value.mantissa.natAbs ≤ value.digits :=
      trailingZeros_le_digitCount _
    simp only
    omega

theorem natAbs_le_of_mem_mulScales (member : scale ∈ mulScales left right) :
    scale.natAbs ≤ left.scale.natAbs + right.scale.natAbs := by
  rw [mulScales] at member
  split at member
  · cases member
  · rw [List.mem_singleton.1 member]
    omega

/-- A product in a power computes no scale but its own. -/
theorem mem_mulTrimmedScales (member : scale ∈ mulTrimmedScales left right) :
    scale = (left.mulTrimmed right).scale := by
  rw [mulTrimmedScales] at member
  rw [mulTrimmed]
  split at member
  next one =>
    rw [if_pos one]
    exact List.mem_singleton.1 member
  split at member
  next notOne one =>
    rw [if_neg notOne, if_pos one]
    exact List.mem_singleton.1 member
  next notOne otherNotOne =>
    rw [if_neg notOne, if_neg otherNotOne]
    exact List.mem_singleton.1 member

/-! ## Quotients -/

theorem natAbs_scale_longQuotient_le (precision : ℕ) (dividend divisor : Decimal) :
    (longQuotient precision dividend divisor).scale.natAbs ≤
      dividend.scale.natAbs + divisor.scale.natAbs + (precision + 2 + divisor.digits) + 1 := by
  simp only [longQuotient]
  split <;> simp only <;> omega

/-- A further digit of either sign. -/
theorem digitCount_mul_ten_add_le (number : ℤ) {last : ℤ} (small : last.natAbs ≤ 1) :
    digitCount (number * 10 + last).natAbs ≤ digitCount number.natAbs + 1 := by
  apply digitCount_le_of_lt (Nat.succ_pos _)
  have below := lt_tenTo_digitCount number.natAbs
  rw [tenTo_succ]
  omega

theorem digits_longQuotient_le (precision : ℕ) (dividend divisor : Decimal) :
    (longQuotient precision dividend divisor).digits ≤
      dividend.digits + (precision + 2 + divisor.digits) + 1 := by
  let shift := precision + 2 + divisor.digits - dividend.digits
  have numerator :
      digitCount (dividend.mantissa * tenTo shift).natAbs ≤ dividend.digits + shift := by
    rw [Int.natAbs_mul, Int.natAbs_natCast]
    exact digitCount_mul_tenTo_le _ _
  have quotient : digitCount ((dividend.mantissa * tenTo shift).tdiv divisor.mantissa).natAbs ≤
      dividend.digits + shift :=
    (digitCount_mono (Int.natAbs_tdiv_le_natAbs _ _)).trans numerator
  have bounded : shift ≤ precision + 2 + divisor.digits := Nat.sub_le _ _
  have signs (first second : ℤ) : (first.sign * second.sign).natAbs ≤ 1 := by
    rw [Int.natAbs_mul, Int.natAbs_sign, Int.natAbs_sign]
    split <;> split <;> decide
  simp only [longQuotient]
  split
  · exact quotient.trans (by omega)
  · apply (digitCount_mul_ten_add_le _ (signs _ _)).trans
    exact (Nat.succ_le_succ quotient).trans (by omega)

/-- A quotient moves scales by no more than the scales and digits of its terms. -/
theorem natAbs_le_of_mem_divScales (member : scale ∈ divScales dividend precision divisor) :
    scale.natAbs ≤ dividend.scale.natAbs + divisor.scale.natAbs + dividend.digits +
      2 * (precision + 2 + divisor.digits) + 2 := by
  rw [divScales] at member
  split at member
  · cases member
  · have quotientScale := natAbs_scale_longQuotient_le precision dividend divisor
    have quotientDigits := digits_longQuotient_le precision dividend divisor
    simp only [List.mem_append, List.mem_cons, List.not_mem_nil, or_false] at member
    rcases member with (rfl | rfl | rfl) | rounded
    · omega
    · omega
    · omega
    · have := (mem_roundScales rounded).2
      omega

theorem div_bounds (keeps : 0 < precision) {quotient : Decimal}
    (divided : dividend.div precision divisor = .ok quotient) :
    quotient.digits ≤ precision + 1 ∧
      quotient.scale.natAbs ≤ dividend.scale.natAbs + divisor.scale.natAbs + dividend.digits +
        2 * (precision + 2 + divisor.digits) + 2 := by
  rw [div] at divided
  split at divided
  · cases divided
  split at divided
  · cases divided
    exact ⟨Nat.le_add_left 1 precision, Nat.zero_le _⟩
  · cases divided
    have quotientScale := natAbs_scale_longQuotient_le precision dividend divisor
    have quotientDigits := digits_longQuotient_le precision dividend divisor
    have rounded := natAbs_scale_round_le precision (longQuotient precision dividend divisor)
    exact ⟨digits_round_le keeps _, by omega⟩

/-! ## Powers -/

theorem natAbs_scale_le (value : Decimal) :
    value.scale.natAbs ≤ value.digits + value.order.natAbs := by
  rw [scale_eq]
  omega

/-- How far an order lies from zero at most, with one more for what products and roundings add. -/
def reach (value : Decimal) : ℕ := value.order.natAbs + 1

/-- What the loop of a power keeps of its two decimals. -/
structure IsFactor (precision : ℕ) (value : Decimal) : Prop where
  nonzero : ¬value.isZero
  short : value.digits ≤ precision + 1

theorem isFactor_one (precision : ℕ) : IsFactor precision one :=
  ⟨by decide, Nat.le_add_left 1 precision⟩

theorem isFactor_round (keeps : 0 < precision) (nonzero : ¬value.isZero) :
    IsFactor precision (value.round precision) :=
  ⟨not_isZero_round keeps nonzero, digits_round_le keeps value⟩

namespace IsFactor

theorem mul (leftFactor : IsFactor precision left) (rightFactor : IsFactor precision right)
    (keeps : 0 < precision) : IsFactor precision ((left.mulTrimmed right).round precision) :=
  isFactor_round keeps (not_isZero_mulTrimmed leftFactor.nonzero rightFactor.nonzero)

/-- The orders of a product and of what it is rounded to reach no further than those of the factors
together. -/
theorem reach_mul_le (leftFactor : IsFactor precision left) (rightFactor : IsFactor precision right)
    (keeps : 0 < precision) :
    reach (left.mulTrimmed right) ≤ reach left + reach right ∧
      reach ((left.mulTrimmed right).round precision) ≤ reach left + reach right := by
  have product := order_mulTrimmed leftFactor.nonzero rightFactor.nonzero
  have rounded := order_round keeps (left.mulTrimmed right)
  simp only [reach]
  omega

theorem natAbs_le_of_mem_factorScales (leftFactor : IsFactor precision left)
    (rightFactor : IsFactor precision right) (keeps : 0 < precision)
    (member : scale ∈ factorScales precision left right) :
    scale.natAbs ≤ 4 * (precision + 1) + (reach left + reach right) := by
  have reached := (leftFactor.reach_mul_le rightFactor keeps).1
  have digits := digits_mulTrimmed_le left right
  have leftShort := leftFactor.short
  have rightShort := rightFactor.short
  have productScale := natAbs_scale_le (left.mulTrimmed right)
  rw [reach] at reached
  rcases List.mem_append.1 member with multiplied | rounded
  · rw [mem_mulTrimmedScales multiplied]
    omega
  · have := (mem_roundScales rounded).2
    omega

end IsFactor

/-- What an exponent counts, by its last binary digit and the others. -/
theorem mul_halves (exponent count : ℕ) :
    exponent % 2 * count + exponent / 2 * (count + count) = exponent * count := by
  conv_rhs => rw [← Nat.div_add_mod exponent 2]
  ring

/-- A power by squaring. -/
theorem pow_halves (number : ℚ) (exponent : ℕ) :
    number ^ (exponent % 2) * (number * number) ^ (exponent / 2) = number ^ exponent := by
  conv_rhs => rw [← Nat.div_add_mod exponent 2]
  rw [pow_add, pow_mul, sq, mul_comm]

theorem powerLoop_of_pos {exponent : ℕ} (positive : exponent ≠ 0) (accumulator base : Decimal) :
    powerLoop precision exponent accumulator base =
      if exponent / 2 = 0 then accumulated precision exponent accumulator base
      else powerLoop precision (exponent / 2) (accumulated precision exponent accumulator base)
        ((base.mulTrimmed base).round precision) := by
  rw [powerLoop, if_neg positive]
  rfl

theorem powerLoopScales_of_pos {exponent : ℕ} (positive : exponent ≠ 0)
    (accumulator base : Decimal) :
    powerLoopScales precision exponent accumulator base =
      if exponent / 2 = 0 then accumulatedScales precision exponent accumulator base
      else accumulatedScales precision exponent accumulator base ++
        factorScales precision base base ++
        powerLoopScales precision (exponent / 2) (accumulated precision exponent accumulator base)
          ((base.mulTrimmed base).round precision) := by
  rw [powerLoopScales, if_neg positive]

/-- One binary digit of the exponent lets the accumulator reach further by the base, if the digit is
one. -/
theorem IsFactor.accumulated_bounds (leftFactor : IsFactor precision left)
    (rightFactor : IsFactor precision right) (keeps : 0 < precision) (exponent : ℕ) :
    IsFactor precision (accumulated precision exponent left right) ∧
      reach (accumulated precision exponent left right) ≤
        reach left + exponent % 2 * reach right ∧
      ∀ scale ∈ accumulatedScales precision exponent left right,
        scale.natAbs ≤ 4 * (precision + 1) + (reach left + exponent % 2 * reach right) := by
  rw [accumulated, accumulatedScales]
  split
  next odd =>
    rw [odd, Nat.one_mul]
    exact ⟨leftFactor.mul rightFactor keeps, (leftFactor.reach_mul_le rightFactor keeps).2,
      fun scale => leftFactor.natAbs_le_of_mem_factorScales rightFactor keeps⟩
  next even => exact ⟨leftFactor, Nat.le_add_right _ _, by simp⟩

/-- The loop of a power reaches as many times further as the exponent says. -/
theorem powerLoop_bounds (keeps : 0 < precision) (exponent : ℕ) {accumulator base : Decimal}
    (factor : IsFactor precision accumulator) (based : IsFactor precision base) :
    IsFactor precision (powerLoop precision exponent accumulator base) ∧
      reach (powerLoop precision exponent accumulator base) ≤
        reach accumulator + exponent * reach base ∧
      ∀ scale ∈ powerLoopScales precision exponent accumulator base,
        scale.natAbs ≤ 4 * (precision + 1) + (reach accumulator + exponent * reach base) := by
  induction exponent using Nat.strong_induction_on generalizing accumulator base with
  | h exponent ih =>
    by_cases positive : exponent = 0
    · rw [powerLoop, powerLoopScales, if_pos positive, if_pos positive]
      exact ⟨factor, Nat.le_add_right _ _, by simp⟩
    have halves : exponent * reach base =
        2 * (exponent / 2 * reach base) + exponent % 2 * reach base := by
      rw [← Nat.mul_assoc, ← Nat.add_mul, Nat.div_add_mod]
    rcases factor.accumulated_bounds based keeps exponent with ⟨product, reached, scales⟩
    rw [powerLoop_of_pos positive, powerLoopScales_of_pos positive]
    split
    next last =>
      refine ⟨product, reached.trans (by omega), ?_⟩
      intro scale member
      exact (scales scale member).trans (by omega)
    next more =>
      have square := based.mul based keeps
      have squareReached := (based.reach_mul_le based keeps).2
      have doubled := Nat.mul_le_mul_left (exponent / 2) squareReached
      rw [Nat.mul_add] at doubled
      rcases ih (exponent / 2) (by omega) product square with ⟨power, furtherReached, further⟩
      refine ⟨power, furtherReached.trans (by omega), ?_⟩
      intro scale member
      rcases List.mem_append.1 member with earlier | later
      · rcases List.mem_append.1 earlier with inProduct | inSquare
        · exact (scales scale inProduct).trans (by omega)
        · have half : reach base ≤ exponent / 2 * reach base :=
            Nat.le_mul_of_pos_left _ (Nat.pos_of_ne_zero more)
          exact (based.natAbs_le_of_mem_factorScales based keeps inSquare).trans (by omega)
      · exact (further scale later).trans (by omega)

/-! ### Powers of zero -/

/-- The factors in a power of a zero that is written without a fraction. -/
def IsUnscaled (value : Decimal) : Prop := value = one ∨ value = zero

theorem IsUnscaled.mul_zero (unscaled : IsUnscaled value) (keeps : 0 < precision) :
    (value.mulTrimmed zero).round precision = zero ∧
      ∀ scale ∈ factorScales precision value zero, scale = 0 := by
  have short : zero.digits ≤ precision := keeps
  have product : value.mulTrimmed zero = zero := by
    rcases unscaled with rfl | rfl <;> decide
  refine ⟨by rw [product, round_of_digits_le short], ?_⟩
  intro scale member
  rcases List.mem_append.1 member with inProduct | inRounding
  · rw [mem_mulTrimmedScales inProduct, product]
    rfl
  · rw [product, roundScales, if_pos short] at inRounding
    cases inRounding

theorem IsUnscaled.accumulated_zero (unscaled : IsUnscaled value) (keeps : 0 < precision)
    (exponent : ℕ) : IsUnscaled (accumulated precision exponent value zero) ∧
      ∀ scale ∈ accumulatedScales precision exponent value zero, scale = 0 := by
  rcases unscaled.mul_zero keeps with ⟨product, scales⟩
  rw [accumulated, accumulatedScales]
  split
  next odd => exact ⟨.inr product, scales⟩
  next even => exact ⟨unscaled, by simp⟩

/-- The powers of a zero that is written without a fraction are written so again. -/
theorem IsUnscaled.powerLoop_zero (unscaled : IsUnscaled value) (keeps : 0 < precision)
    (exponent : ℕ) : IsUnscaled (powerLoop precision exponent value zero) ∧
      ∀ scale ∈ powerLoopScales precision exponent value zero, scale = 0 := by
  induction exponent using Nat.strong_induction_on generalizing value with
  | h exponent ih =>
    by_cases positive : exponent = 0
    · rw [powerLoop, powerLoopScales, if_pos positive, if_pos positive]
      exact ⟨unscaled, by simp⟩
    rcases unscaled.accumulated_zero keeps exponent with ⟨product, scales⟩
    have square := @IsUnscaled.mul_zero precision zero (.inr rfl) keeps
    rw [powerLoop_of_pos positive, powerLoopScales_of_pos positive, square.1]
    split
    next last => exact ⟨product, scales⟩
    next more =>
      rcases ih (exponent / 2) (by omega) product with ⟨power, further⟩
      refine ⟨power, List.forall_mem_append.2 ⟨?_, further⟩⟩
      exact List.forall_mem_append.2 ⟨scales, square.2⟩

/-! ## Guards -/

/-- The guards of a power, behind which its loop runs. A base zero passes with any scale. -/
structure PassesGuards (base : Decimal) (exponent : ℤ) : Prop where
  nonzero : exponent ≠ 0
  small : exponent.natAbs ≤ exponentLimit
  bounded : ¬base.isZero → base.order.natAbs * exponent.natAbs ≤ orderLimit

/-- What is left to do after the loop of a power. -/
def lastStep (context : Context) (precision : ℕ) (exponent : ℤ) (power : Decimal) :
    Except CalculationError Decimal :=
  if exponent < 0 then (one.div precision power).map (round context.precision)
  else .ok (power.round context.precision)

section Guards

variable {context : Context} {base result : Decimal} {exponent : ℤ}

/-- A power behind all of its guards, where none of them has refused it. -/
theorem passesGuards_of_not_refused (nonzero : exponent ≠ 0)
    (small : ¬exponentLimit < exponent.natAbs)
    (bounded : ¬(¬base.isZero ∧ orderLimit < base.order.natAbs * exponent.natAbs)) :
    PassesGuards base exponent :=
  ⟨nonzero, Nat.le_of_not_lt small, fun base => Nat.le_of_not_lt fun exceeded =>
    bounded ⟨base, exceeded⟩⟩

theorem passesGuards_of_mem_powScales (member : scale ∈ powScales context base exponent) :
    PassesGuards base exponent := by
  rw [powScales] at member
  split at member
  · cases member
  split at member
  · cases member
  split at member
  · cases member
  next nonzero small bounded => exact passesGuards_of_not_refused nonzero small bounded

theorem pow_exponent_zero (context : Context) (base : Decimal) : base.pow context 0 = .ok one := by
  rw [pow, if_pos rfl]

/-- A power whose exponent is not zero and that exceeds no bound passes the guards. -/
theorem passesGuards_of_accepted (nonzero : exponent ≠ 0)
    (accepted : ∀ bound, base.pow context exponent ≠ .error (.excess bound)) :
    PassesGuards base exponent := by
  simp only [pow, if_neg nonzero] at accepted
  split at accepted
  · exact absurd rfl (accepted _)
  split at accepted
  · exact absurd rfl (accepted _)
  next small bounded => exact passesGuards_of_not_refused nonzero small bounded

/-- A power that succeeds has the exponent zero or passes the guards. -/
theorem pow_eq_ok_cases (succeeded : base.pow context exponent = .ok result) :
    exponent = 0 ∧ result = one ∨ PassesGuards base exponent := by
  by_cases zero : exponent = 0
  · subst zero
    rw [pow_exponent_zero] at succeeded
    cases succeeded
    exact .inl ⟨rfl, rfl⟩
  · right
    apply passesGuards_of_accepted zero
    intro bound exceeded
    rw [succeeded] at exceeded
    cases exceeded

namespace PassesGuards

variable (passes : PassesGuards base exponent)

include passes

theorem not_exceeded : ¬(¬base.isZero ∧ orderLimit < base.order.natAbs * exponent.natAbs) :=
  fun exceeded => Nat.not_lt_of_le (passes.bounded exceeded.1) exceeded.2

theorem pow_eq (context : Context) :
    base.pow context exponent = lastStep context (powerPrecision context exponent) exponent
      (powerLoop (powerPrecision context exponent) exponent.natAbs one
        (base.round (powerPrecision context exponent))) := by
  rw [pow, if_neg passes.nonzero, if_neg (Nat.not_lt_of_le passes.small),
    if_neg passes.not_exceeded]
  rfl

theorem powScales_eq (context : Context) :
    powScales context base exponent = roundScales (powerPrecision context exponent) base ++
      powerLoopScales (powerPrecision context exponent) exponent.natAbs one
        (base.round (powerPrecision context exponent)) ++
      lastScales context (powerPrecision context exponent) exponent
        (powerLoop (powerPrecision context exponent) exponent.natAbs one
          (base.round (powerPrecision context exponent))) := by
  rw [powScales, if_neg passes.nonzero, if_neg (Nat.not_lt_of_le passes.small),
    if_neg passes.not_exceeded]

theorem powerPrecision_le (precise : context.precision ≤ Context.maximalPrecision) :
    powerPrecision context exponent ≤ 210 := by
  have digits : digitCount exponent.natAbs ≤ 9 := by
    apply digitCount_le_of_lt (by decide)
    exact passes.small.trans_lt (by decide)
  have maximal : Context.maximalPrecision = 200 := rfl
  rw [powerPrecision]
  omega

end PassesGuards

theorem powerPrecision_pos (context : Context) (exponent : ℤ) :
    0 < powerPrecision context exponent :=
  Nat.succ_pos _

end Guards

/-! ## Bounds on powers -/

/-- A bound on all scales that a power computes, if its base is not a zero with a scale. -/
def powerScaleBound : ℕ := 2 * orderLimit

theorem power_limits : powerScaleBound = 2 * orderLimit ∧ orderLimit = 1000000000000000 ∧
    exponentLimit = 999999999 :=
  ⟨rfl, rfl, rfl⟩

section Power

variable {context : Context} {base power result : Decimal} {exponent : ℤ} {limit : ℕ}

/-- The reciprocal and the last rounding move the scale of a power by a few digits. -/
theorem lastScales_bounds (keeps : 0 < precision) (contextKeeps : 0 < context.precision)
    (short : power.digits ≤ precision + 1) (bounded : power.scale.natAbs ≤ limit) :
    (∀ scale ∈ lastScales context precision exponent power,
        scale.natAbs ≤ limit + 5 * precision + 10) ∧
      ∀ result, lastStep context precision exponent power = .ok result →
        result.digits ≤ context.precision + 1 ∧
          result.scale.natAbs ≤ limit + 5 * precision + 10 := by
  have unit : one.scale.natAbs = 0 := rfl
  rw [lastScales, lastStep]
  split
  next negative =>
    have quotient (scale : ℤ) (member : scale ∈ divScales one precision power) :
        scale.natAbs ≤ limit + 5 * precision + 10 := by
      have := natAbs_le_of_mem_divScales member
      rw [digits_one] at this
      omega
    cases divided : one.div precision power with
    | error cause =>
        refine ⟨?_, fun result failed => by cases failed⟩
        simpa using quotient
    | ok reciprocal =>
        have reciprocalBounds := div_bounds keeps divided
        rw [digits_one] at reciprocalBounds
        refine ⟨List.forall_mem_append.2 ⟨quotient, ?_⟩, ?_⟩
        · intro scale member
          have := (mem_roundScales member).2
          omega
        · intro result succeeded
          cases succeeded
          have := natAbs_scale_round_le context.precision reciprocal
          exact ⟨digits_round_le contextKeeps _, by omega⟩
  next =>
    refine ⟨?_, ?_⟩
    · intro scale member
      have := (mem_roundScales member).2
      omega
    · intro result succeeded
      cases succeeded
      have := natAbs_scale_round_le context.precision power
      exact ⟨digits_round_le contextKeeps _, by omega⟩

/-- How far the loop of a power that passes the guards can reach, where the base is not zero. -/
theorem PassesGuards.reach_le (passes : PassesGuards base exponent) (nonzero : ¬base.isZero)
    (keeps : 0 < precision) :
    reach one + exponent.natAbs * reach (base.round precision) ≤
      orderLimit + 2 * exponentLimit + 2 := by
  have small := passes.small
  have bounded := passes.bounded nonzero
  have rounded : reach (base.round precision) ≤ base.order.natAbs + 2 := by
    have order := order_round keeps base
    rw [reach]
    omega
  have multiplied := Nat.mul_le_mul_left exponent.natAbs rounded
  rw [Nat.mul_add, Nat.mul_comm exponent.natAbs base.order.natAbs] at multiplied
  have first : reach one = 2 := rfl
  omega

/-- The loop of a power that passes the guards, where the base is not zero. -/
theorem PassesGuards.powerLoop_bounds (passes : PassesGuards base exponent)
    (nonzero : ¬base.isZero) (keeps : 0 < precision) :
    IsFactor precision (powerLoop precision exponent.natAbs one (base.round precision)) ∧
      reach (powerLoop precision exponent.natAbs one (base.round precision)) ≤
        orderLimit + 2 * exponentLimit + 2 ∧
      ∀ scale ∈ powerLoopScales precision exponent.natAbs one (base.round precision),
        scale.natAbs ≤ 4 * (precision + 1) + (orderLimit + 2 * exponentLimit + 2) := by
  have within := passes.reach_le nonzero keeps
  rcases Decimal.powerLoop_bounds keeps exponent.natAbs (isFactor_one precision)
    (isFactor_round keeps nonzero) with ⟨factor, reached, scales⟩
  refine ⟨factor, reached.trans within, ?_⟩
  intro scale member
  exact (scales scale member).trans (Nat.add_le_add_left within _)

/-- The loop of a power that passes the guards gives a scale that is small enough for what is left
to do, if the base is not a zero with a scale. -/
theorem PassesGuards.scale_powerLoop_le (passes : PassesGuards base exponent)
    (precise : context.precision ≤ Context.maximalPrecision)
    (unscaled : base.isZero → base = zero) :
    (powerLoop (powerPrecision context exponent) exponent.natAbs one
      (base.round (powerPrecision context exponent))).digits ≤
        powerPrecision context exponent + 1 ∧
    (powerLoop (powerPrecision context exponent) exponent.natAbs one
      (base.round (powerPrecision context exponent))).scale.natAbs ≤
        orderLimit + 2 * exponentLimit + 1000 ∧
    ∀ scale ∈ roundScales (powerPrecision context exponent) base ++
      powerLoopScales (powerPrecision context exponent) exponent.natAbs one
        (base.round (powerPrecision context exponent)), scale.natAbs ≤ powerScaleBound := by
  have limits := power_limits
  have keeps := powerPrecision_pos context exponent
  have working := passes.powerPrecision_le precise
  by_cases isZero : base.isZero
  · have short : zero.digits ≤ powerPrecision context exponent := keeps
    rw [unscaled isZero, round_of_digits_le short, roundScales, if_pos short, List.nil_append]
    rcases @IsUnscaled.powerLoop_zero _ one (.inl rfl) keeps exponent.natAbs with ⟨power, scales⟩
    refine ⟨?_, ?_, fun scale member => by rw [scales scale member]; exact Nat.zero_le _⟩
    · rcases power with same | same <;> rw [same] <;> exact Nat.le_add_left 1 _
    · rcases power with same | same <;> rw [same] <;> exact Nat.zero_le _
  · rcases passes.powerLoop_bounds isZero keeps with ⟨factor, reached, scales⟩
    have powerDigits := factor.short
    have powerScale := natAbs_scale_le (powerLoop (powerPrecision context exponent)
      exponent.natAbs one (base.round (powerPrecision context exponent)))
    rw [reach] at reached
    refine ⟨powerDigits, by omega, List.forall_mem_append.2 ⟨?_, ?_⟩⟩
    · intro scale member
      have order : base.order.natAbs ≤ base.order.natAbs * exponent.natAbs :=
        Nat.le_mul_of_pos_right _ (Int.natAbs_pos.2 passes.nonzero)
      have bounded := passes.bounded isZero
      have rounded := order_round keeps base
      have roundedScale := natAbs_scale_le (base.round (powerPrecision context exponent))
      have roundedDigits := digits_round_le keeps base
      rw [(mem_roundScales member).1]
      omega
    · intro scale member
      exact (scales scale member).trans (by omega)

/-- The guards of a power keep all scales on its way small, and that of the result, if the base is
not a zero with a scale. -/
theorem powScales_bounds (keeps : 0 < context.precision)
    (precise : context.precision ≤ Context.maximalPrecision)
    (unscaled : base.isZero → base = zero) :
    (∀ scale ∈ powScales context base exponent, scale.natAbs ≤ powerScaleBound) ∧
      ∀ result, base.pow context exponent = .ok result →
        result.digits ≤ context.precision + 1 ∧ result.scale.natAbs ≤ powerScaleBound := by
  have limits := power_limits
  have workingKeeps := powerPrecision_pos context exponent
  refine ⟨?_, ?_⟩
  · intro scale member
    have passes := passesGuards_of_mem_powScales member
    have working := passes.powerPrecision_le precise
    rcases passes.scale_powerLoop_le precise unscaled with ⟨short, bounded, scales⟩
    rw [passes.powScales_eq] at member
    rcases List.mem_append.1 member with earlier | last
    · exact scales scale earlier
    · exact ((lastScales_bounds workingKeeps keeps short bounded).1 scale last).trans (by omega)
  · intro result succeeded
    rcases pow_eq_ok_cases succeeded with ⟨-, rfl⟩ | passes
    · exact ⟨Nat.le_add_left 1 _, Nat.zero_le _⟩
    have working := passes.powerPrecision_le precise
    rcases passes.scale_powerLoop_le precise unscaled with ⟨short, bounded, -⟩
    rw [passes.pow_eq] at succeeded
    have last := (lastScales_bounds workingKeeps keeps short bounded).2 result succeeded
    exact ⟨last.1, last.2.trans (by omega)⟩

end Power

end DecimalCalculator.Decimal
