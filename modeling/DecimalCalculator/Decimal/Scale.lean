import DecimalCalculator.Decimal.Power

/-!
# The scales that operations compute

The scales that products, roundings, quotients and powers compute on the way to their results, in
the order of the steps. The result tells only the last one of them.
-/

namespace DecimalCalculator.Decimal

/-- The scale that a product computes, if no factor is one. -/
def mulScales (left right : Decimal) : List Int :=
  if left.isOne || right.isOne then [] else [left.scale + right.scale]

/-- The scale that a product in a power computes. -/
def mulTrimmedScales (left right : Decimal) : List Int :=
  if left.isOne then [right.trimmed.scale]
  else if right.isOne then [left.trimmed.scale]
  else [left.scale + right.scale]

def roundScales (precision : Nat) (value : Decimal) : List Int :=
  if value.digits ≤ precision then [] else [value.scale - (value.digits - precision : Nat)]

/-- The scales of a quotient: the difference, the one at which the integer division is made, the one
with the digit for what is left over, and what rounding makes of it. -/
def divScales (dividend : Decimal) (precision : Nat) (divisor : Decimal) : List Int :=
  if divisor.isZero || dividend.isZero then []
  else
    let shift := precision + 2 + divisor.digits - dividend.digits
    let quotient := longQuotient precision dividend divisor
    [dividend.scale - divisor.scale, dividend.scale - divisor.scale + shift, quotient.scale] ++
      roundScales precision quotient

/-- The scales of a product in a power, and of its rounding. -/
def factorScales (precision : Nat) (left right : Decimal) : List Int :=
  mulTrimmedScales left right ++ roundScales precision (left.mulTrimmed right)

/-- The accumulator of a power after one binary digit of the exponent, the last one. -/
def accumulated (precision exponent : Nat) (accumulator base : Decimal) : Decimal :=
  if exponent % 2 = 1 then (accumulator.mulTrimmed base).round precision else accumulator

def accumulatedScales (precision exponent : Nat) (accumulator base : Decimal) : List Int :=
  if exponent % 2 = 1 then factorScales precision accumulator base else []

/-- The scales that the loop of a power computes. -/
def powerLoopScales (precision exponent : Nat) (accumulator base : Decimal) : List Int :=
  if exponent = 0 then []
  else if exponent / 2 = 0 then accumulatedScales precision exponent accumulator base
  else
    accumulatedScales precision exponent accumulator base ++ factorScales precision base base ++
      powerLoopScales precision (exponent / 2) (accumulated precision exponent accumulator base)
        ((base.mulTrimmed base).round precision)
termination_by exponent

/-- The scales that the end of a power computes: those of a reciprocal, if one is taken, and of the
rounding to the context. -/
def lastScales (context : Context) (precision : Nat) (exponent : Int) (power : Decimal) : List Int :=
  if exponent < 0 then
    divScales one precision power ++
      match one.div precision power with
      | .ok reciprocal => roundScales context.precision reciprocal
      | .error _ => []
  else roundScales context.precision power

/-- The scales that a power computes, if it is not refused. -/
def powScales (context : Context) (base : Decimal) (exponent : Int) : List Int :=
  if exponent = 0 then []
  else if exponentLimit < exponent.natAbs then []
  else if ¬base.isZero ∧ orderLimit < base.order.natAbs * exponent.natAbs then []
  else
    let precision := powerPrecision context exponent
    roundScales precision base ++
      powerLoopScales precision exponent.natAbs one (base.round precision) ++
      lastScales context precision exponent
        (powerLoop precision exponent.natAbs one (base.round precision))

end DecimalCalculator.Decimal
