import DecimalCalculator.Decimal.Basic

/-!
# Integer part

Exponents and factorial arguments are cut to integers of 64 bits. Digits are counted before
any power of ten is computed, so a huge scale costs nothing.
-/

namespace DecimalCalculator.Decimal

def word? (number : Int) : Option Int :=
  if -(twoTo 63 : Int) ≤ number ∧ number < twoTo 63 then some number else none

/-- The digits of the largest signed word of 64 bits. -/
def wordDigits : Nat := 19

/-- The integer part, cut toward zero, if it fits into a signed word of 64 bits. -/
def integerPart? (value : Decimal) : Option Int :=
  if value.scale ≤ 0 then
    if value.isZero then some 0
    else if wordDigits < value.digits + value.scale.natAbs then none
    else word? (value.mantissa * tenTo value.scale.natAbs)
  else if value.digits < value.scale.natAbs then some 0
  else word? (value.mantissa.tdiv (tenTo value.scale.natAbs))

end DecimalCalculator.Decimal
