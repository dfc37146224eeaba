/-!
# Lexemes

An expression is cut into lexemes: runs of digits and points, runs of letters, and single
symbols. The letter `x` is the sign of multiplication and therefore never part of a word; the
capital `X` is nothing at all. All other characters are skipped, and a skipped character ends
a run.

The cut is made from the right. A character joins the run behind it when that run is of its
own kind, so every run is as long as the text allows.
-/

namespace DecimalCalculator

inductive LexemeKind
  /-- A run of digits and points. -/
  | numeral
  | word
  | symbol
  deriving DecidableEq, Repr

abbrev Lexeme := List Char

namespace Lexeme

def symbols : List Char := ['^', '*', 'x', '/', '+', '-', '(', ')', '!', '%']

/-- The kind of lexeme a character belongs to; none if it is skipped. -/
def kindOf (character : Char) : Option LexemeKind :=
  if character.isDigit || character == '.' then some .numeral
  else if character.isAlpha && character != 'x' && character != 'X' then some .word
  else if symbols.contains character then some .symbol
  else none

def extend (character : Char) : List Lexeme → List Lexeme
  | [] => [[character]]
  | lexeme :: lexemes => (character :: lexeme) :: lexemes

def split : List Char → List Lexeme
  | [] => []
  | character :: rest =>
    match kindOf character with
    | none => split rest
    | some .symbol => [character] :: split rest
    | some kind =>
      if rest.head?.bind kindOf = some kind then extend character (split rest)
      else [character] :: split rest

/-- The lexemes behind which an operand begins. -/
def opensOperand (lexeme : Lexeme) : Bool :=
  ["x", "*", "-", "+", "^", "/", "("].any (·.toList == lexeme)

/-- The lexemes together are the text less the characters that are skipped. -/
theorem flatten_split (text : List Char) :
    (split text).flatten = text.filter fun character => (kindOf character).isSome := by
  have flatten_extend (character : Char) (lexemes : List Lexeme) :
      (extend character lexemes).flatten = character :: lexemes.flatten := by
    cases lexemes <;> simp [extend]
  induction text with
  | nil => rfl
  | cons character rest ih =>
    rw [split]
    split
    next skipped => simp [skipped, ih]
    next symbol => simp [symbol, ih]
    next kind _ known =>
      split <;> simp [known, flatten_extend, ih]

end Lexeme

end DecimalCalculator
