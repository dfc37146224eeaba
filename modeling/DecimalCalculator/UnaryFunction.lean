import DecimalCalculator.Binary64.Conversion

/-!
# Functions of one argument

The named functions of the calculator. Their values are computed on binary numbers of 64 bits
and come back as shortest decimals, which are not rounded to the context. Angles are in
degrees on both sides.
-/

namespace DecimalCalculator

inductive UnaryFunction
  | sin
  | cos
  | tan
  | asin
  | acos
  | atan
  | sqrt
  | log
  | ln
  deriving DecidableEq, Repr

namespace UnaryFunction

def all : List UnaryFunction :=
  [sin, cos, tan, asin, acos, atan, sqrt, log, ln]

def name : UnaryFunction → String
  | sin => "sin"
  | cos => "cos"
  | tan => "tan"
  | asin => "asin"
  | acos => "acos"
  | atan => "atan"
  | sqrt => "sqrt"
  | log => "log"
  | ln => "ln"

def ofName? (name : String) : Option UnaryFunction :=
  all.find? (·.name == name)

theorem mem_all (function : UnaryFunction) : function ∈ all := by
  cases function <;> simp [all]

theorem ofName?_name (function : UnaryFunction) : ofName? function.name = some function := by
  cases function <;> rfl

def degree : Float := 0.017453292519943295

/-- The binary number nearest to the degrees of one radian. -/
def radian : Float := 57.2957795130823208767981548141051703

/-- The value on binary numbers, `log` being the logarithm to base ten. -/
def onFloat : UnaryFunction → Float → Float
  | sin, argument => (argument * degree).sin
  | cos, argument => (argument * degree).cos
  | tan, argument => (argument * degree).tan
  | asin, argument => argument.asin * radian
  | acos, argument => argument.acos * radian
  | atan, argument => argument.atan * radian
  | sqrt, argument => argument.sqrt
  | log, argument => argument.log10
  | ln, argument => argument.log

/-- The value on decimals. A negative number has no square root, however small it is. -/
def apply (function : UnaryFunction) (argument : Decimal) : Except CalculationError Decimal :=
  if function = sqrt ∧ argument.isNegative then .error .negativeRoot
  else Decimal.ofFloat function.name (function.onFloat argument.toFloat)

end UnaryFunction

end DecimalCalculator
