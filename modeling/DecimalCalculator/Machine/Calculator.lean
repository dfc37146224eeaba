import DecimalCalculator.Calculator
import DecimalCalculator.Machine.Run

/-!
# The calculator on a machine

Every key has the preview computed anew. Where the machine stops at that, there is no calculator any
more.
-/

namespace DecimalCalculator.Machine

def preview (context : Context) (display : String) : Machine Preview :=
  if isIdle display then .ok Preview.blank
  else (evaluate context display).map Preview.ofEvaluation

def refresh (calculator : Calculator) : Machine Calculator :=
  (preview calculator.context calculator.display).map fun preview => { calculator with preview }

def press (calculator : Calculator) (key : Key) : Machine Calculator :=
  refresh (calculator.apply key)

def pressAll (calculator : Calculator) (keys : List Key) : Machine Calculator :=
  keys.foldlM press calculator

end DecimalCalculator.Machine
