import DecimalCalculator.Evaluation
import DecimalCalculator.Key

/-!
# The calculator

The state of a calculator and what its keys do. After every key the preview is computed anew
from the display, so it never lags behind; the key of equality only looks at the preview and
evaluates nothing itself. An empty display shows `0`, has no preview, and is replaced by what
is typed, except by a point.
-/

namespace DecimalCalculator

def emptyDisplay : String := "0"

def isIdle (display : String) : Bool :=
  display.isEmpty || display == emptyDisplay

/-- What is shown below the display: an answer, the error marker, or nothing, and how an answer
was reached. -/
structure Preview where
  text : String
  derivation : Derivation
  deriving DecidableEq, Repr

namespace Preview

def blank : Preview := ⟨"", Derivation.empty⟩

def failed : Preview := ⟨errorMarker, Derivation.empty⟩

def ofEvaluation : Except CalculationError Evaluation → Preview
  | .ok evaluation => ⟨evaluation.result, evaluation.derivation⟩
  | .error _ => failed

def ofDisplay (context : Context) (display : String) : Preview :=
  if isIdle display then blank else ofEvaluation (evaluate context display)

def isAnswer (preview : Preview) : Bool :=
  !preview.text.isEmpty && preview.text != errorMarker

end Preview

structure Calculator where
  display : String
  preview : Preview
  /-- The accepted equations, the latest first. -/
  history : List String
  scientific : Bool
  context : Context
  deriving DecidableEq, Repr

namespace Calculator

def historyLimit : Nat := 3

def fresh (context : Context) (scientific : Bool) : Calculator :=
  ⟨emptyDisplay, Preview.blank, [], scientific, context⟩

def refresh (calculator : Calculator) : Calculator :=
  { calculator with preview := Preview.ofDisplay calculator.context calculator.display }

/-! ## The keys -/

def append (text : String) (calculator : Calculator) : Calculator :=
  { calculator with display := calculator.display ++ text }

/-- Appends to the display, or replaces it if it is empty. -/
def insert (text : String) (calculator : Calculator) : Calculator :=
  if calculator.display = emptyDisplay then { calculator with display := text }
  else calculator.append text

def erase (calculator : Calculator) : Calculator :=
  let kept := String.ofList calculator.display.toList.dropLast
  { calculator with display := if kept.isEmpty then emptyDisplay else kept }

def equation (calculator : Calculator) : String :=
  calculator.display ++ " = " ++ calculator.preview.text

/-- Keeps the equation in the history and takes the answer as the new display. -/
def accept (calculator : Calculator) : Calculator :=
  if calculator.preview.isAnswer then
    { calculator with
      history := (calculator.equation :: calculator.history).take historyLimit
      display := calculator.preview.text }
  else calculator

/-- What a key does before the preview is brought in step. -/
def apply (calculator : Calculator) : Key → Calculator
  | .character '.' => calculator.append "."
  | .character typed => calculator.insert typed.toString
  | .function named => calculator.insert (named.name ++ "(")
  | .clear => { calculator with display := emptyDisplay }
  | .clearHistory => { calculator with history := [] }
  | .equals => calculator.accept
  | .reciprocal => calculator.append "^(-1)"
  | .power => calculator.append "^"
  | .backspace => calculator.erase
  | .scientific => { calculator with scientific := !calculator.scientific }

def press (calculator : Calculator) (key : Key) : Calculator :=
  (calculator.apply key).refresh

def pressAll (calculator : Calculator) (keys : List Key) : Calculator :=
  keys.foldl press calculator

/-! ## The keypad -/

def clearLabel (calculator : Calculator) : String :=
  if calculator.display = emptyDisplay then "AC" else "C"

/-- The rows of the keypad. An empty label is a place without a button. -/
def keypad (calculator : Calculator) : List (List String) :=
  if calculator.scientific then
    [["log", "ln", "sin", "cos", "tan"],
      ["sqrt", "%", "asin", "acos", "atan"],
      ["x!", calculator.clearLabel, "<-", "x^y", "/"],
      ["1/x", "7", "8", "9", "x"],
      ["(", "4", "5", "6", "-"],
      [")", "1", "2", "3", "+"],
      ["Sc", "", "0", ".", "="]]
  else
    [[calculator.clearLabel, "<-", "x^y", "/"],
      ["7", "8", "9", "x"],
      ["4", "5", "6", "-"],
      ["1", "2", "3", "+"],
      ["Sc", "0", ".", "="]]

def labels (calculator : Calculator) : List String :=
  calculator.keypad.flatten.filter (!·.isEmpty)

end Calculator

end DecimalCalculator
