import DecimalCalculator.CalculationError
import DecimalCalculator.Decimal.Rounding

/-!
# Sums and quotients

A sum is exact and has the larger of the two scales. It is refused when the scales lie so far
apart that the exact mantissa would be enormous; a term zero is simply left out, whatever its
scale.

A quotient is rounded once. The integer division is made with at least two digits more than
asked for, and one more digit records whether anything was left over, so that an inexact
quotient is never taken for a half.
-/

namespace DecimalCalculator.Decimal

/-- The largest distance of scales over which a sum is computed. -/
def scaleGapLimit : Nat := 100000

/-- The mantissa of the same value at a scale that is not smaller. -/
def mantissaAt (value : Decimal) (scale : Int) : Int :=
  value.mantissa * tenTo (scale - value.scale).toNat

def sum (left right : Decimal) : Decimal :=
  let scale := max left.scale right.scale
  ⟨left.mantissaAt scale + right.mantissaAt scale, scale⟩

/-- The exact sum, refused if the scales are too far apart. -/
def add (left right : Decimal) : Except CalculationError Decimal :=
  if left.isZero then .ok right
  else if right.isZero then .ok left
  else if scaleGapLimit < (left.scale - right.scale).natAbs then .error (.excess .scaleGap)
  else .ok (sum left right)

def sub (left right : Decimal) : Except CalculationError Decimal :=
  add left right.neg

/-- A quotient of non-zero decimals with more digits than `precision`. Its last digit is not
zero unless the quotient is exact. -/
def longQuotient (precision : Nat) (dividend divisor : Decimal) : Decimal :=
  let shift := precision + 2 + divisor.digits - dividend.digits
  let numerator := dividend.mantissa * tenTo shift
  let quotient := numerator.tdiv divisor.mantissa
  let scale := dividend.scale - divisor.scale + shift
  if numerator.tmod divisor.mantissa = 0 then ⟨quotient, scale⟩
  else ⟨quotient * 10 + numerator.sign * divisor.mantissa.sign, scale + 1⟩

def div (dividend : Decimal) (precision : Nat) (divisor : Decimal) :
    Except CalculationError Decimal :=
  if divisor.isZero then .error .divisionByZero
  else if dividend.isZero then .ok zero
  else .ok ((longQuotient precision dividend divisor).round precision)

end DecimalCalculator.Decimal
