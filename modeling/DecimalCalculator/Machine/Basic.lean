import DecimalCalculator.Powers

/-!
# Machine words

A mantissa is as long as it has to be. The numbers that steer the arithmetic are not: a scale is
held in a signed word of 64 bits and a number of digits in an unsigned one, and powers of ten are
taken to exponents of 32 bits. The sums of these numbers are not checked in advance.

A machine computes what the exact operations give as long as every word holds its number. At the
first one that does not, it stops, and leaves no answer behind, not even the error marker. An
exponent of a power of ten counts as a stop as well: cut to 32 bits it would belong to another power
of ten, and what is computed from there on would have nothing to do with the calculation. That takes
a precision or a divisor of some two thousand million digits.
-/

namespace DecimalCalculator

/-- A number that is computed in a machine word. -/
inductive Word
  | scale (number : Int)
  /-- A number of digits. -/
  | length (number : Nat)
  /-- The exponent of a power of ten. -/
  | exponent (number : Nat)
  deriving DecidableEq, Repr

namespace Word

def fits : Word → Bool
  | scale number => decide (-(twoTo 63 : Int) ≤ number ∧ number < twoTo 63)
  | length number => decide (number < twoTo 64)
  | exponent number => decide (number < twoTo 32)

/-- Words in two stages. Those of the second stage are computed only if the first ones fit. -/
def andThen (words : List Word) (more : Unit → List Word) : List Word :=
  if words.all fits then words ++ more () else words

end Word

/-- What a machine computes, or the word at which it stops. -/
abbrev Machine (α : Type) : Type := Except Word α

namespace Machine

/-- Stops at the first word that does not hold its number. -/
def check (words : List Word) : Machine Unit :=
  match words.find? (!·.fits) with
  | some word => .error word
  | none => .ok ()

end Machine

end DecimalCalculator
