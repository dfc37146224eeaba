import DecimalCalculator.Context
import DecimalCalculator.Decimal.Arithmetic

/-!
# Integer powers

A power is computed by squaring, each product rounded to a few digits more than the context
keeps, and rounded to the context at the end. A negative exponent takes the reciprocal of the
power. Two bounds keep the work small: on the exponent, and on the order of magnitude of the
result.
-/

namespace DecimalCalculator.Decimal

def exponentLimit : Nat := 999999999

def orderLimit : Nat := tenTo 15

/-- Multiplies the accumulator by a power of the base, one binary digit of the exponent after
the other, least significant first. Every product is rounded to `precision` digits. -/
def powerLoop (precision exponent : Nat) (accumulator base : Decimal) : Decimal :=
  if exponent = 0 then accumulator
  else
    let accumulator :=
      if exponent % 2 = 1 then (accumulator.mulTrimmed base).round precision else accumulator
    if exponent / 2 = 0 then accumulator
    else powerLoop precision (exponent / 2) accumulator ((base.mulTrimmed base).round precision)
termination_by exponent

def powerPrecision (context : Context) (exponent : Int) : Nat :=
  context.precision + digitCount exponent.natAbs + 1

def pow (context : Context) (base : Decimal) (exponent : Int) : Except CalculationError Decimal :=
  if exponent = 0 then .ok one
  else if exponentLimit < exponent.natAbs then .error (.excess (.exponentSize exponent))
  else if ¬base.isZero ∧ orderLimit < base.order.natAbs * exponent.natAbs then
    .error (.excess .powerOrder)
  else
    let precision := powerPrecision context exponent
    let power := powerLoop precision exponent.natAbs one (base.round precision)
    if exponent < 0 then (one.div precision power).map (round context.precision)
    else .ok (power.round context.precision)

end DecimalCalculator.Decimal
