import DecimalCalculator.CalculationError
import DecimalCalculator.Context
import DecimalCalculator.Decimal.Truncation

/-!
# Factorials

The argument is cut to its integer part. The factorial itself is exact.
-/

namespace DecimalCalculator

/-- The product of the numbers from one to `number`. -/
def factorial : Nat → Nat
  | 0 => 1
  | number + 1 => (number + 1) * factorial number

namespace Decimal

/-- The factorial of the integer part. -/
def factorial (context : Context) (value : Decimal) : Except CalculationError Decimal :=
  match value.integerPart? with
  | none =>
    if value.isNegative then .error .negativeFactorial else .error (.excess .factorialRange)
  | some number =>
    if number < 0 then .error .negativeFactorial
    else if context.factorialLimit < number.toNat then
      .error (.excess (.factorialSize context.factorialLimit))
    else .ok (ofInt (DecimalCalculator.factorial number.toNat))

end Decimal

end DecimalCalculator
