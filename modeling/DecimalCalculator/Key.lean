import DecimalCalculator.UnaryFunction

/-!
# Keys

The keys of the calculator, and how they are named: by the label on a button, or by a character
typed on a keyboard. A keyboard gives lower-case letters, digits and the signs of arithmetic;
the commands have labels only.
-/

namespace DecimalCalculator

inductive Key
  | character (character : Char)
  /-- Types the name of a function and an opening parenthesis. -/
  | function (function : UnaryFunction)
  | clear
  | clearHistory
  /-- Accepts the preview. -/
  | equals
  /-- Types the power minus one. -/
  | reciprocal
  | power
  | backspace
  | scientific
  deriving DecidableEq, Repr

namespace Key

def signs : List Char := ['.', '^', '*', '/', '+', '-', '(', ')', '!', '%']

def ofChar? (typed : Char) : Option Key :=
  if typed.isDigit || typed.isLower || signs.contains typed then some (character typed) else none

/-- The keys of a typed text; characters that are not accepted are left out. -/
def ofText (text : String) : List Key :=
  text.toList.filterMap ofChar?

def ofCommand? : String → Option Key
  | "C" => some clear
  | "AC" => some clearHistory
  | "=" => some equals
  | "1/x" => some reciprocal
  | "x^y" => some power
  | "<-" => some backspace
  | "Sc" => some scientific
  | "x!" => some (.character '!')
  | _ => none

def ofLabel? (label : String) : Option Key :=
  match ofCommand? label, UnaryFunction.ofName? label, label.toList with
  | some key, _, _ => some key
  | none, some named, _ => some (function named)
  | none, none, [typed] => ofChar? typed
  | none, none, _ => none

end Key

end DecimalCalculator
