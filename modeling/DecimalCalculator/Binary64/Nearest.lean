import DecimalCalculator.Binary64.Basic
import DecimalCalculator.Digits

/-!
# The nearest binary number to a quotient

A positive quotient of natural numbers goes to the nearest binary number of 64 bits, a half to
the even significand. The place of the last bit is found from the binary order of the quotient
and is never below the smallest exponent, so numbers near zero lose precision gradually.
-/

namespace DecimalCalculator.Binary64

/-- Moves a quotient by a power of two: numerator and denominator of `quotient / 2 ^ exponent`. -/
def scaleDown (numerator denominator : Nat) (exponent : Int) : Nat × Nat :=
  (numerator * twoTo (-exponent).toNat, denominator * twoTo exponent.toNat)

/-- The exponent of the power of two at or just below a positive quotient. -/
def binaryOrder (numerator denominator : Nat) : Int :=
  let estimate : Int := (numerator.log2 : Int) - denominator.log2
  let (scaledNumerator, scaledDenominator) := scaleDown numerator denominator estimate
  if scaledNumerator < scaledDenominator then estimate - 1 else estimate

/-- The binary number nearest to a quotient, a half to the even significand. -/
def nearest (numerator denominator : Nat) : Float :=
  if numerator = 0 then ofMagnitudeBits 0
  else
    let exponent := max (binaryOrder numerator denominator - fractionBits) minimalExponent
    let (scaledNumerator, scaledDenominator) := scaleDown numerator denominator exponent
    let significand := divideToEven scaledNumerator scaledDenominator
    ofMagnitudeBits (Magnitude.encode ⟨significand, exponent⟩)

end DecimalCalculator.Binary64
