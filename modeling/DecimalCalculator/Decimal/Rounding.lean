import DecimalCalculator.Decimal.Basic

/-!
# Rounding to significant digits

A decimal with too many digits loses the last ones. What is lost rounds to the nearest
remaining number, a half to the one with an even last digit. A decimal that is short enough
stays exactly as it is written.
-/

namespace DecimalCalculator.Decimal

/-- Rounds to the given number of significant digits, a half to even. -/
def round (precision : Nat) (value : Decimal) : Decimal :=
  if value.digits ≤ precision then value
  else
    let removed := value.digits - precision
    let magnitude := divideToEven value.mantissa.natAbs (tenTo removed)
    ⟨value.mantissa.sign * magnitude, value.scale - removed⟩

theorem round_of_digits_le {precision : Nat} {value : Decimal} (short : value.digits ≤ precision) :
    value.round precision = value := by
  simp [round, short]

theorem round_neg (precision : Nat) (value : Decimal) :
    value.neg.round precision = (value.round precision).neg := by
  by_cases short : value.digits ≤ precision
  · simp [round, short]
  · simp only [round, digits_neg, short, ↓reduceIte]
    simp only [neg, Int.natAbs_neg, Int.sign_neg, Int.neg_mul]

end DecimalCalculator.Decimal
