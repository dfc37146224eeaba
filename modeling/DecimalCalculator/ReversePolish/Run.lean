import DecimalCalculator.Decimal.Factorial
import DecimalCalculator.Decimal.Power
import DecimalCalculator.Token.Basic

/-!
# Running reverse Polish order

Tokens in reverse Polish order are computed on a stack of values. An operator that finds only
its right operand takes zero for the left one, which gives a sign in front of a parenthesis its
meaning. The answer is the value at the bottom of the stack; values above it do not matter, and
an empty stack answers zero.
-/

namespace DecimalCalculator

namespace Operator

/-- The value of an operator between two operands. The exponent of a power is cut to its
integer part. -/
def apply (context : Context) (left right : Decimal) :
    Operator → Except CalculationError Decimal
  | plus => left.add right
  | minus => left.sub right
  | star | cross => .ok (left.mul right)
  | slash => left.div context.precision right
  | caret =>
    match right.integerPart? with
    | none => .error (.excess .exponentRange)
    | some exponent => left.pow context exponent

end Operator

namespace Mark

/-- The value of a mark behind its operand. -/
def apply (context : Context) (operand : Decimal) : Mark → Except CalculationError Decimal
  | factorial => operand.factorial context
  | percent => operand.div context.precision (Decimal.ofInt 100)

end Mark

namespace ReversePolish

/-- The stack after one more token, latest value first. -/
def step (context : Context) (stack : List Decimal) (token : Token) :
    Except CalculationError (List Decimal) :=
  match token, stack with
  | .number value, _ => .ok (value :: stack)
  | _, [] => .error (.missingOperand token.text)
  | .operator operator, right :: rest =>
    (operator.apply context (rest.head?.getD Decimal.zero) right).map (· :: rest.tail)
  | .mark mark, operand :: rest => (mark.apply context operand).map (· :: rest)
  | .function function, operand :: rest => (function.apply operand).map (· :: rest)
  | _, _ :: _ => .error (.unknownToken token.text)

def runFrom (context : Context) (stack : List Decimal) (tokens : List Token) :
    Except CalculationError (List Decimal) :=
  tokens.foldlM (step context) stack

theorem runFrom_cons (context : Context) (stack : List Decimal) (token : Token)
    (tokens : List Token) :
    runFrom context stack (token :: tokens) =
      (step context stack token).bind fun next => runFrom context next tokens :=
  rfl

theorem runFrom_append (context : Context) (stack : List Decimal) (front back : List Token) :
    runFrom context stack (front ++ back) =
      (runFrom context stack front).bind fun stack => runFrom context stack back := by
  simp only [runFrom, List.foldlM_append]
  rfl

/-- The text of the value at the bottom of a stack. -/
def renderBottom (context : Context) (stack : List Decimal) : Except CalculationError String :=
  match stack.getLast? with
  | none => .ok "0"
  | some value => value.render context

def run (context : Context) (tokens : List Token) : Except CalculationError String :=
  (runFrom context [] tokens).bind (renderBottom context)

end ReversePolish

end DecimalCalculator
