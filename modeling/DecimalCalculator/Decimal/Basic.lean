import DecimalCalculator.Digits

/-!
# Decimals

A decimal is an integer mantissa and a scale, and stands for `mantissa / 10 ^ scale`. It is
not brought to a normal form: `1.50` and `1.5` are different decimals of one value. The
representation can be seen in a few places (the length of a text before its trailing zeros
are removed, the distance of two scales in a sum, the way to a binary number), so every
operation here says which representation it gives.

The operations are exact: a scale can be any integer, and so can a number of digits. `Machine` runs
them in words of a limited size.
-/

namespace DecimalCalculator

/-- The number `mantissa / 10 ^ scale`. -/
structure Decimal where
  mantissa : Int
  scale : Int
  deriving DecidableEq, Repr, Inhabited

namespace Decimal

def zero : Decimal := ⟨0, 0⟩

def one : Decimal := ⟨1, 0⟩

def ofInt (number : Int) : Decimal := ⟨number, 0⟩

def isZero (value : Decimal) : Bool := value.mantissa == 0

def isNegative (value : Decimal) : Bool := decide (value.mantissa < 0)

def digits (value : Decimal) : Nat := digitCount value.mantissa.natAbs

/-- The power of ten just above a non-zero value: `10 ^ (order - 1) ≤ |value| < 10 ^ order`. -/
def order (value : Decimal) : Int := value.digits - value.scale

def neg (value : Decimal) : Decimal := ⟨-value.mantissa, value.scale⟩

/-- Whether the value is one and is written with as many decimals as its scale says:
`1`, `1.0`, `1.00`, … The digits are counted first, so that no power is computed in vain. -/
def isOne (value : Decimal) : Bool :=
  decide (0 ≤ value.scale) && (value.digits == value.scale.toNat + 1) &&
    (value.mantissa == tenTo value.scale.toNat)

def trimmed (value : Decimal) : Decimal :=
  if value.isZero then zero
  else
    let zeros := trailingZeros value.mantissa.natAbs
    ⟨value.mantissa.tdiv (tenTo zeros), value.scale - zeros⟩

/-- The exact product. A factor one leaves the other factor as it is written; otherwise the
mantissas are multiplied and the scales added. -/
def mul (left right : Decimal) : Decimal :=
  if left.isOne then right
  else if right.isOne then left
  else ⟨left.mantissa * right.mantissa, left.scale + right.scale⟩

/-- The exact product, where a factor one gives the other factor trimmed. -/
def mulTrimmed (left right : Decimal) : Decimal :=
  if left.isOne then right.trimmed
  else if right.isOne then left.trimmed
  else ⟨left.mantissa * right.mantissa, left.scale + right.scale⟩

theorem isZero_iff {value : Decimal} : value.isZero ↔ value.mantissa = 0 := by
  simp [isZero]

theorem natAbs_mantissa_pos {value : Decimal} (nonzero : ¬value.isZero) :
    0 < value.mantissa.natAbs :=
  Int.natAbs_pos.2 (mt isZero_iff.2 nonzero)

@[simp]
theorem digits_neg (value : Decimal) : value.neg.digits = value.digits := by
  simp [neg, digits]

end Decimal

end DecimalCalculator
