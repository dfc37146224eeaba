/-!
# Contexts

A context holds the three numbers that steer a calculation: how many significant digits a
quotient or a power keeps, the largest factorial, and the longest text shown. They are numbers of
any size here; a machine is given those that a word of 64 bits holds.
-/

namespace DecimalCalculator

structure Context where
  /-- Significant digits kept by `/`, `%` and `^`. -/
  precision : Nat
  factorialLimit : Nat
  /-- The longest text shown, its sign apart. -/
  displayLimit : Nat
  deriving DecidableEq, Repr

namespace Context

def defaultPrecision : Nat := 16

def maximalPrecision : Nat := 200

/-- Sixteen significant digits, as a decimal number of 64 bits has. -/
def default : Context := ⟨defaultPrecision, 3000, 10000⟩

/-- The default context with another precision, brought between 1 and 200. -/
def ofPrecision (precision : Nat) : Context :=
  { default with precision := min (max precision 1) maximalPrecision }

end Context

instance : Inhabited Context := ⟨Context.default⟩

end DecimalCalculator
