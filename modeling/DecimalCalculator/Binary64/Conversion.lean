import DecimalCalculator.Binary64.Integer
import DecimalCalculator.Binary64.Shortest
import DecimalCalculator.CalculationError

/-!
# Between decimals and binary numbers

The functions of a scientific calculator are computed in binary. A decimal goes there by way of
its writing: an integer is rounded as integers are, a fraction is rounded once after digits far
behind the leading ones have been cut off in groups, and a decimal with a negative scale is a
rounded integer times a power of ten that is itself a product of rounded squares. The way back
is the shortest decimal, in positional notation.
-/

namespace DecimalCalculator

namespace Binary64

/-- Multiplies the result by a power of the base, one binary digit of the exponent after the
other. -/
def powerLoop (exponent : Nat) (result base : Float) : Float :=
  let result := if exponent % 2 = 1 then result * base else result
  if exponent / 2 = 0 then result
  else powerLoop (exponent / 2) result (base * base)
termination_by exponent

def powerOfTen (exponent : Nat) : Float :=
  powerLoop exponent 1.0 10.0

def infinity : Float := ofMagnitudeBits infinityBits

end Binary64

namespace Decimal

/-- The digits that are never cut off before a conversion. -/
def keptDigits : Nat := 25

/-- The digits cut off together. -/
def digitGroup : Nat := 19

/-- The digits of a number as estimated from its binary length, which is counted with one bit
more. The logarithm of two to base ten is taken to twenty places. -/
def estimatedDigits (number : Nat) : Nat :=
  (number.log2 + 2) * 30102999566398119521 / tenTo 20

/-- The magnitude of a decimal with whole groups of its last digits cut off, so that few more
than `keptDigits` digits are left. -/
def shortened (value : Decimal) : Decimal :=
  let magnitude := value.mantissa.natAbs
  let removed := digitGroup * ((estimatedDigits magnitude - keptDigits) / digitGroup)
  ⟨magnitude / tenTo removed, value.scale - removed⟩

/-- Whether a scale and its opposite are signed words of 32 bits. -/
def isConvertibleScale (scale : Int) : Bool :=
  decide (scale.natAbs < twoTo 31)

/-- An order below which every value is less than half the smallest binary number. -/
def vanishingOrder : Int := -324

/-- The binary number for a non-negative decimal that is not an integer by its writing. -/
def scaledToFloat (value : Decimal) : Float :=
  if !isConvertibleScale value.scale then Binary64.infinity
  else if value.scale ≤ 0 then
    Binary64.ofNat value.mantissa.natAbs * Binary64.powerOfTen value.scale.natAbs
  else if value.order < vanishingOrder then Binary64.ofMagnitudeBits 0
  else Binary64.nearest value.mantissa.natAbs (tenTo value.scale.natAbs)

/-- The binary number for a decimal. The sign is put on last. -/
def toFloat (value : Decimal) : Float :=
  if value.isZero then Binary64.ofMagnitudeBits 0
  else
    let magnitude :=
      if value.scale = 0 then Binary64.ofNat value.mantissa.natAbs
      else scaledToFloat value.shortened
    if value.isNegative then -magnitude else magnitude

/-- The same value without a negative scale and without zeros at the end of its fraction. -/
def positional (value : Decimal) : Decimal :=
  let short := value.trimmed
  if short.scale < 0 then ⟨short.mantissa * tenTo short.scale.natAbs, 0⟩ else short

def ofFloat? (number : Float) : Option Decimal :=
  (Binary64.Magnitude.decode? (Binary64.magnitudeBits number)).map fun magnitude =>
    let value := magnitude.shortest.positional
    if Binary64.isSigned number then value.neg else value

/-- The shortest decimal for the value of a function, which is outside its domain where that
value is not finite. -/
def ofFloat (function : String) (number : Float) : Except CalculationError Decimal :=
  match ofFloat? number with
  | none => .error (.outsideDomain function)
  | some value => .ok value

end Decimal

end DecimalCalculator
