import DecimalCalculator.Calculator
import DecimalCalculator.Journal.Basic
import DecimalCalculator.Machine.Run
import DecimalCalculator.Text.Quoted

/-!
# What is reported

Nothing is recorded while the calculator works. Every step is determined by the state it starts
from, so the entries of a step are a function of that state: an evaluation reports its
derivation, and whoever asked for it reports why it failed. Nobody reports that the machine stopped.
-/

namespace DecimalCalculator.Journal

def failureMessage (text : String) (cause : CalculationError) : String :=
  Text.quote text ++ " : " ++ cause.message

/-- The entries of an evaluation: its derivation, unless the text is a number or has none. -/
def ofEvaluation (context : Context) (text : String) : List Entry :=
  if (Decimal.parse? text).isSome then []
  else
    match Derivation.ofTokens context (expressionTokens text) with
    | .error _ => []
    | .ok derivation =>
      [⟨.debug, .evaluation,
        s!"jetons [{derivation.tokens}] -> rpn [{derivation.reversePolish}]"⟩]

def ofFailure (context : Context) (text : String) (entry : CalculationError → Entry) :
    List Entry :=
  match Machine.evaluate context text with
  | .ok (.error cause) => [entry cause]
  | .ok (.ok _) | .error _ => []

def ofAnswer (context : Context) (text : String) : List Entry :=
  ofEvaluation context text ++
    ofFailure context text fun cause =>
      ⟨.debug, .evaluation, "évaluation de " ++ failureMessage text cause⟩

def ofRefresh (calculator : Calculator) : List Entry :=
  if isIdle calculator.display then []
  else
    ofEvaluation calculator.context calculator.display ++
      ofFailure calculator.context calculator.display fun cause =>
        ⟨.debug, .calculator, "aperçu de " ++ failureMessage calculator.display cause⟩

def ofKeys (calculator : Calculator) : List Key → List Entry
  | [] => []
  | key :: keys => ofRefresh (calculator.apply key) ++ ofKeys (calculator.press key) keys

end DecimalCalculator.Journal
