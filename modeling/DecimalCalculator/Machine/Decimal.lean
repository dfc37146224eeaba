import DecimalCalculator.Decimal.Scale
import DecimalCalculator.Machine.Basic
import DecimalCalculator.UnaryFunction

/-!
# The words of single operations

A sum takes the larger of two scales and computes no word. A quotient first counts the digits that
it needs, and a power those that it works with; nothing is multiplied before these numbers are known
to fit. What is left are scales.
-/

namespace DecimalCalculator.Decimal

def mulWords (left right : Decimal) : List Word :=
  (mulScales left right).map .scale

/-- The number of digits that a quotient needs besides those of its divisor, and the exponent of the
power of ten that provides them. -/
def quotientLengths (dividend : Decimal) (precision : Nat) (divisor : Decimal) : List Word :=
  if divisor.isZero || dividend.isZero then []
  else
    [.length (precision + 2 + divisor.digits),
      .exponent (precision + 2 + divisor.digits - dividend.digits)]

def divWords (dividend : Decimal) (precision : Nat) (divisor : Decimal) : List Word :=
  Word.andThen (quotientLengths dividend precision divisor) fun _ =>
    (divScales dividend precision divisor).map .scale

/-- The number of digits that a power works with, and those of its reciprocal if one is taken. -/
def powerLengths (context : Context) (base : Decimal) (exponent : Int) : List Word :=
  let precision := powerPrecision context exponent
  Word.andThen [.length precision] fun _ =>
    if exponent < 0 then
      quotientLengths one precision
        (powerLoop precision exponent.natAbs one (base.round precision))
    else []

/-- The words that a power computes, if it is not refused. -/
def powWords (context : Context) (base : Decimal) (exponent : Int) : List Word :=
  if exponent = 0 then []
  else if exponentLimit < exponent.natAbs then []
  else if ¬base.isZero ∧ orderLimit < base.order.natAbs * exponent.natAbs then []
  else
    Word.andThen (powerLengths context base exponent) fun _ =>
      (powScales context base exponent).map .scale

/-- The scale behind which the last digits are cut off on the way to a binary number. -/
def conversionWords (value : Decimal) : List Word :=
  if value.isZero || value.scale == 0 then [] else [.scale value.shortened.scale]

end DecimalCalculator.Decimal
