import DecimalCalculator.Powers

/-!
# Binary numbers of 64 bits

A finite binary number of 64 bits is `significand * 2 ^ exponent`, up to its sign, with a
significand below `2 ^ 53` and an exponent of at least -1074. The bits of a positive number
read as a natural number grow with the value, which makes encoding a single sum: a significand
that reaches `2 ^ 53` carries into the exponent by itself.
-/

namespace DecimalCalculator.Binary64

def fractionBits : Nat := 52

def minimalExponent : Int := -1074

/-- The bits of positive infinity, the least pattern that is not a finite number. -/
def infinityBits : Nat := 2047 * twoTo fractionBits

/-- The magnitude `significand * 2 ^ exponent`. -/
structure Magnitude where
  significand : Nat
  exponent : Int
  deriving DecidableEq, Repr

namespace Magnitude

/-- The bits of a magnitude; what lies beyond the finite numbers is infinite. -/
def encode (magnitude : Magnitude) : Nat :=
  min infinityBits
    (magnitude.significand + (magnitude.exponent - minimalExponent).toNat * twoTo fractionBits)

def decode? (bits : Nat) : Option Magnitude :=
  let field := bits / twoTo fractionBits
  let fraction := bits % twoTo fractionBits
  if infinityBits ≤ bits then none
  else if field = 0 then some ⟨fraction, minimalExponent⟩
  else some ⟨fraction + twoTo fractionBits, minimalExponent + field - 1⟩

end Magnitude

def magnitudeBits (number : Float) : Nat := number.toBits.toNat % twoTo 63

def isSigned (number : Float) : Bool := twoTo 63 ≤ number.toBits.toNat

def ofMagnitudeBits (bits : Nat) : Float := Float.ofBits (UInt64.ofNat bits)

end DecimalCalculator.Binary64
