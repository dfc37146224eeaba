import DecimalCalculator.Evaluation
import DecimalCalculator.Machine.Decimal

/-!
# Evaluation on a machine

A machine makes a step of a run once the words of the step are known to fit. The texts of the tokens
are made before anything is computed, so a failure there is reported even where the run would have
stopped.
-/

namespace DecimalCalculator

def Operator.words (context : Context) (left right : Decimal) : Operator → List Word
  | plus | minus => []
  | star | cross => left.mulWords right
  | slash => left.divWords context.precision right
  | caret =>
    match right.integerPart? with
    | none => []
    | some exponent => left.powWords context exponent

def Mark.words (context : Context) (operand : Decimal) : Mark → List Word
  | factorial => []
  | percent => operand.divWords context.precision (Decimal.ofInt 100)

/-- The words of a function, which are those of the conversion of its argument. -/
def UnaryFunction.words (function : UnaryFunction) (argument : Decimal) : List Word :=
  if function = sqrt ∧ argument.isNegative then [] else argument.conversionWords

/-- The words that a step computes. A number is read into the word of its scale. -/
def ReversePolish.stepWords (context : Context) (stack : List Decimal) (token : Token) :
    List Word :=
  match token, stack with
  | .number value, _ => [.scale value.scale]
  | .operator operator, right :: rest =>
    operator.words context (rest.head?.getD Decimal.zero) right
  | .mark mark, operand :: _ => mark.words context operand
  | .function function, operand :: _ => function.words operand
  | _, _ => []

namespace Machine

def step (context : Context) (stack : List Decimal) (token : Token) :
    Machine (Except CalculationError (List Decimal)) :=
  (check (ReversePolish.stepWords context stack token)).map fun _ =>
    ReversePolish.step context stack token

def runFrom (context : Context) (stack : List Decimal) :
    List Token → Machine (Except CalculationError (List Decimal))
  | [] => .ok (.ok stack)
  | token :: tokens =>
    (step context stack token).bind fun
      | .ok next => runFrom context next tokens
      | .error cause => .ok (.error cause)

def run (context : Context) (tokens : List Token) : Machine (Except CalculationError String) :=
  (runFrom context [] tokens).map (·.bind (ReversePolish.renderBottom context))

def evaluateTokens (context : Context) (tokens : List Token) :
    Machine (Except CalculationError Evaluation) :=
  match Derivation.ofTokens context tokens with
  | .error cause => .ok (.error cause)
  | .ok derivation =>
    (run context (ReversePolish.ofTokens tokens)).map (·.map (⟨·, derivation⟩))

def evaluate (context : Context) (text : String) : Machine (Except CalculationError Evaluation) :=
  if (Decimal.parse? text).isSome then .ok (.ok (Evaluation.ofLiteral text))
  else evaluateTokens context (expressionTokens text)

def answer (context : Context) (text : String) : Machine String :=
  (evaluate context text).map Evaluation.shown

end Machine

end DecimalCalculator
