/-!
# Causes of failure

Every operation that can fail says why, as a value of `CalculationError`. The texts shown to
a reader are made in one place, `CalculationError.message`. A calculator shows none of them:
each failure appears there as the one marker `errorMarker`.
-/

namespace DecimalCalculator

def errorMarker : String := "Error"

/-- The bounds that a calculation can exceed. -/
inductive Excess
  | scaleGap
  /-- An exponent that is no machine integer. -/
  | exponentRange
  | exponentSize (exponent : Int)
  | powerOrder
  /-- A factorial argument that is no machine integer. -/
  | factorialRange
  | factorialSize (limit : Nat)
  | textLength
  deriving DecidableEq, Repr

namespace Excess

def message : Excess → String
  | scaleGap => "échelles trop éloignées"
  | exponentRange => "exposant"
  | exponentSize exponent => s!"exposant {exponent}"
  | powerOrder => "puissance démesurée"
  | factorialRange => "factorielle"
  | factorialSize limit => s!"factorielle au-delà de {limit}"
  | textLength => "résultat trop long"

end Excess

/-- Why a calculation has no value. -/
inductive CalculationError
  | divisionByZero
  | negativeRoot
  | negativeFactorial
  /-- The named function has no finite value at its argument. -/
  | outsideDomain (function : String)
  /-- The token with this text found no value to work on. -/
  | missingOperand (token : String)
  | unknownToken (token : String)
  | excess (bound : Excess)
  deriving DecidableEq, Repr

namespace CalculationError

def message : CalculationError → String
  | divisionByZero => "division par zéro"
  | negativeRoot => "racine carrée d’un nombre négatif"
  | negativeFactorial => "factorielle d’un nombre négatif"
  | outsideDomain function => s!"hors domaine pour {function}"
  | missingOperand token => s!"opérande manquant pour « {token} »"
  | unknownToken token => s!"jeton inconnu : « {token} »"
  | excess bound => s!"dépassement : {bound.message}"

end CalculationError

end DecimalCalculator
