import DecimalCalculator.ReversePolish.Order
import DecimalCalculator.ReversePolish.Run
import DecimalCalculator.Token.Scan

/-!
# Evaluation of a text

A text that is a number is its own answer, exactly as it is written. Any other text is read as
an expression: its tokens are brought into reverse Polish order and run. An operator that still
waits for its right operand, at the end and directly behind a number, is left out, so that an
answer can be shown while an expression is being typed.

An evaluation also tells how it went, as the texts of its tokens in both orders.
-/

namespace DecimalCalculator

/-- How an answer was reached: the tokens as read, and in reverse Polish order. -/
structure Derivation where
  tokens : String
  reversePolish : String
  deriving DecidableEq, Repr

namespace Derivation

def empty : Derivation := ⟨"", ""⟩

def ofTokens (context : Context) (tokens : List Token) : Except CalculationError Derivation := do
  let inOrder ← Token.renderAll context tokens
  let reversePolish ← Token.renderAll context (ReversePolish.ofTokens tokens)
  return ⟨inOrder, reversePolish⟩

end Derivation

structure Evaluation where
  result : String
  derivation : Derivation
  deriving DecidableEq, Repr

/-- Leaves out an operator at the end if it stands directly behind a number. -/
def dropPendingOperator (tokens : List Token) : List Token :=
  match tokens.reverse with
  | .operator _ :: .number _ :: _ => tokens.dropLast
  | _ => tokens

def expressionTokens (text : String) : List Token :=
  dropPendingOperator (Token.scan text)

namespace Evaluation

def ofLiteral (text : String) : Evaluation := ⟨text, ⟨text, text⟩⟩

def ofTokens (context : Context) (tokens : List Token) : Except CalculationError Evaluation := do
  let derivation ← Derivation.ofTokens context tokens
  let result ← ReversePolish.run context (ReversePolish.ofTokens tokens)
  return ⟨result, derivation⟩

/-- What is shown of an evaluation: its result, or the error marker. -/
def shown : Except CalculationError Evaluation → String
  | .ok evaluation => evaluation.result
  | .error _ => errorMarker

end Evaluation

/-- Evaluates a text, and tells why if it has no value. -/
def evaluate (context : Context) (text : String) : Except CalculationError Evaluation :=
  if (Decimal.parse? text).isSome then .ok (Evaluation.ofLiteral text)
  else Evaluation.ofTokens context (expressionTokens text)

/-- The answer to a text: its value, or the error marker. -/
def answer (context : Context) (text : String) : String :=
  Evaluation.shown (evaluate context text)

end DecimalCalculator
