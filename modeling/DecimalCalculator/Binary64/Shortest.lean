import DecimalCalculator.Binary64.Basic
import DecimalCalculator.Decimal.Basic

/-!
# Shortest decimals of binary numbers

Every binary number is the nearest one to all reals of an interval around it. Among the
decimals in that interval this file picks one with the fewest digits, and of those the one
nearest to the number; of two at the same distance the larger. Seventeen digits always suffice.

Grids of decimals are tried from coarse to fine. On each grid only the two neighbours of the
number have to be looked at: if any point of the grid lies in the interval, one of them does.
All comparisons are between natural numbers.
-/

namespace DecimalCalculator.Binary64

/-- The digits that tell any two binary numbers apart. -/
def maximalDigits : Nat := 17

namespace Magnitude

/-- The power of ten just above a positive magnitude: `10 ^ (order - 1) ≤ value < 10 ^ order`. -/
def decimalOrder (magnitude : Magnitude) : Int :=
  let numerator := magnitude.significand * twoTo magnitude.exponent.toNat
  let denominator := twoTo (-magnitude.exponent).toNat
  if denominator ≤ numerator then digitCount (numerator / denominator)
  else 1 - digitCount ((denominator - 1) / numerator)

/-- A number of quarters of the last binary place, in units common with `gridPoint`. -/
def quarters (magnitude : Magnitude) (grid : Int) (count : Nat) : Nat :=
  count * twoTo (magnitude.exponent - 2).toNat * tenTo (-grid).toNat

/-- The grid point `index * 10 ^ grid`, in units common with `quarters`. -/
def gridPoint (magnitude : Magnitude) (grid : Int) (index : Nat) : Nat :=
  index * tenTo grid.toNat * twoTo (2 - magnitude.exponent).toNat

/-- Half the distance to the next smaller binary number, in quarters of the last place. It is
one quarter where the exponent changes, and two elsewhere. -/
def quartersBelow (magnitude : Magnitude) : Nat :=
  if magnitude.significand = twoTo fractionBits ∧ minimalExponent < magnitude.exponent then 1 else 2

/-- Whether a grid point rounds to the magnitude. The ends of the interval do so exactly when
the significand is even. -/
def roundsHere (magnitude : Magnitude) (grid : Int) (index : Nat) : Bool :=
  let point := magnitude.gridPoint grid index
  let low := magnitude.quarters grid (4 * magnitude.significand - magnitude.quartersBelow)
  let high := magnitude.quarters grid (4 * magnitude.significand + 2)
  if magnitude.significand % 2 = 0 then decide (low ≤ point ∧ point ≤ high)
  else decide (low < point ∧ point < high)

/-- The index of the nearest grid point that rounds to the magnitude, if there is one. -/
def nearestIndex? (magnitude : Magnitude) (grid : Int) : Option Nat :=
  let exact := magnitude.quarters grid (4 * magnitude.significand)
  let below := exact / magnitude.gridPoint grid 1
  let above := below + 1
  match magnitude.roundsHere grid below, magnitude.roundsHere grid above with
  | false, false => none
  | true, false => some below
  | false, true => some above
  | true, true =>
    if exact - magnitude.gridPoint grid below < magnitude.gridPoint grid above - exact then
      some below
    else some above

def shortest (magnitude : Magnitude) : Decimal :=
  if magnitude.significand = 0 then Decimal.zero
  else
    let candidate? (digits : Nat) : Option Decimal :=
      let grid := magnitude.decimalOrder - (digits + 1)
      (magnitude.nearestIndex? grid).map fun index => ⟨index, -grid⟩
    ((List.range maximalDigits).findSome? candidate?).getD Decimal.zero

end Magnitude

end DecimalCalculator.Binary64
