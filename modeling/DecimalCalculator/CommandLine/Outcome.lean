import DecimalCalculator.CommandLine.Request
import DecimalCalculator.Journal.Filter
import DecimalCalculator.Journal.Report

/-!
# Answering the command line

A request for an expression prints its answer, preceded by the derivation if that was asked for
and there is one. Failing to evaluate is an answer too. Nothing is printed before the evaluation, so
the program leaves no text behind if the machine stops. Without an expression the program would open
its window, and there is no display to open it on.
-/

namespace DecimalCalculator.CommandLine

/-- What the program leaves behind: its exit code, and what it has printed. -/
structure Outcome where
  code : Nat
  output : String
  deriving DecidableEq, Repr

/-- The exit code of a program that the machine stops. -/
def stopCode : Nat := 101

def outputLines (derivation : Bool) : Except CalculationError Evaluation → List String
  | .error _ => [errorMarker]
  | .ok evaluation =>
    if derivation then
      [s!"jetons : {evaluation.derivation.tokens}",
        s!"rpn    : {evaluation.derivation.reversePolish}", evaluation.result]
    else [evaluation.result]

def joinLines (lines : List String) : String :=
  String.join (lines.map (· ++ "\n"))

namespace Request

def outcome : Request → Outcome
  | version => ⟨0, "calculatrice_sci 0.1.0\n"⟩
  | misuse => ⟨2, ""⟩
  | run options =>
    match options.expression with
    | none => ⟨1, ""⟩
    | some expression =>
      match Machine.evaluate options.context expression with
      | .error _ => ⟨stopCode, ""⟩
      | .ok result => ⟨0, joinLines (outputLines options.derivation result)⟩

def journal : Request → List Journal.Entry
  | version | misuse => []
  | run options =>
    ⟨.info, .program, s!"démarrage ({options.context.precision} chiffres)"⟩ ::
      match options.expression with
      | none => []
      | some expression =>
        Journal.ofEvaluation options.context expression ++
          Journal.ofFailure options.context expression fun cause =>
            ⟨.warning, .program, Journal.failureMessage expression cause⟩

def journalLines (request : Request) (filter : String) : List String :=
  (request.journal.filter (Journal.isShown (Journal.parseFilter filter))).map
    Journal.Entry.terminalLine

end Request

end DecimalCalculator.CommandLine
