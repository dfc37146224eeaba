import DecimalCalculator.CalculationError
import DecimalCalculator.Context
import DecimalCalculator.Decimal.Basic

/-!
# Plain text of decimals

A decimal is shown in positional notation, never with an exponent: a minus sign if the value
is negative, the digits, and a point if some digits behind it are not zero. Zeros that end
the fraction are not shown, so equal values have equal texts.

The length that a display accepts is checked before the text is made, and on the decimal as it
is written: the zeros that will be dropped count. Zero is always shown.
-/

namespace DecimalCalculator.Decimal

/-- The length of the text before zeros that end the fraction are dropped, the sign apart. -/
def plainLength (value : Decimal) : Nat :=
  if value.scale ≤ 0 then value.digits + value.scale.natAbs
  else max value.digits (value.scale.natAbs + 1) + 1

/-- Puts a point before the last `decimals` digits, adding zeros in front if there are too few,
and drops the zeros that end the fraction, with the point if nothing is left behind it. -/
def pointed (digits : List Char) (decimals : Nat) : List Char :=
  let padded := digits.leftpad (decimals + 1) '0'
  let whole := padded.take (padded.length - decimals)
  let fraction := dropTrailingZeros (padded.drop (padded.length - decimals))
  if fraction.isEmpty then whole else whole ++ '.' :: fraction

def plainMagnitude (value : Decimal) : List Char :=
  let digits := digitsOf value.mantissa.natAbs
  if value.scale ≤ 0 then digits ++ List.replicate value.scale.natAbs '0'
  else pointed digits value.scale.natAbs

def plainChars (value : Decimal) : List Char :=
  if value.isZero then ['0']
  else if value.isNegative then '-' :: value.plainMagnitude
  else value.plainMagnitude

def plainText (value : Decimal) : String :=
  String.ofList value.plainChars

/-- The text shown for a value, unless it is longer than the display accepts. -/
def render (context : Context) (value : Decimal) : Except CalculationError String :=
  if ¬value.isZero ∧ context.displayLimit < value.plainLength then .error (.excess .textLength)
  else .ok value.plainText

end DecimalCalculator.Decimal
