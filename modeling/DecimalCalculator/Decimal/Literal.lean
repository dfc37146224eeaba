import DecimalCalculator.Decimal.Basic

/-!
# Decimal literals

A literal is a base, and possibly a mark `e` or `E` followed by an exponent. The base is a
signed run of digits with at most one point in it; the point is taken out before the sign is
read, so a sign may also stand directly behind a leading point. The exponent is a signed run
of at most nine digits. The scale of the result is the number of characters behind the point
less the exponent: nothing of the writing is lost but the leading zeros.
-/

namespace DecimalCalculator.Decimal

def isExponentMark (character : Char) : Bool :=
  character == 'e' || character == 'E'

def isSign (character : Char) : Bool :=
  character == '+' || character == '-'

def exponentDigits : Nat := 9

def ofBase? (base : List Char) (exponent : Int) : Option Decimal :=
  let whole := base.takeWhile (· != '.')
  let fraction := (base.dropWhile (· != '.')).drop 1
  (readInteger? (whole ++ fraction)).map fun mantissa => ⟨mantissa, fraction.length - exponent⟩

def ofChars? (text : List Char) : Option Decimal :=
  let base := text.takeWhile (!isExponentMark ·)
  match text.dropWhile (!isExponentMark ·) with
  | [] => ofBase? base 0
  | _ :: exponent =>
    if (exponent.dropWhile isSign).length ≤ exponentDigits then
      (readInteger? exponent).bind (ofBase? base)
    else none

/-- Reads a whole literal: `12`, `-0.5`, `.5`, `5.`, `1e3`, … -/
def parse? (text : String) : Option Decimal :=
  ofChars? text.toList

end DecimalCalculator.Decimal
