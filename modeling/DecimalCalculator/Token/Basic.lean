import DecimalCalculator.Decimal.Plain
import DecimalCalculator.UnaryFunction

/-!
# Tokens

The words of an arithmetic expression. A number is a decimal and may be negative; a sign that
belongs to it is part of the token. Whatever has no meaning is a token too, so that it is
refused where it is used and not where it is read.
-/

namespace DecimalCalculator

/-- The operators between two operands. Multiplication has two symbols. -/
inductive Operator
  | caret
  | cross
  | star
  | slash
  | plus
  | minus
  deriving DecidableEq, Repr

namespace Operator

def all : List Operator := [caret, cross, star, slash, plus, minus]

def symbol : Operator → Char
  | caret => '^'
  | cross => 'x'
  | star => '*'
  | slash => '/'
  | plus => '+'
  | minus => '-'

def ofSymbol? (symbol : Char) : Option Operator :=
  all.find? (·.symbol == symbol)

/-- How tightly an operator binds. -/
def rank : Operator → Nat
  | caret => 4
  | cross | star | slash => 3
  | plus | minus => 2

theorem ofSymbol?_symbol (operator : Operator) : ofSymbol? operator.symbol = some operator := by
  cases operator <;> rfl

end Operator

inductive Mark
  | factorial
  | percent
  deriving DecidableEq, Repr

namespace Mark

def all : List Mark := [factorial, percent]

def symbol : Mark → Char
  | factorial => '!'
  | percent => '%'

def ofSymbol? (symbol : Char) : Option Mark :=
  all.find? (·.symbol == symbol)

end Mark

inductive Token
  | number (value : Decimal)
  | operator (operator : Operator)
  | function (function : UnaryFunction)
  | mark (mark : Mark)
  | openParen
  | closeParen
  | unknown (text : String)
  deriving DecidableEq, Repr

namespace Token

def isNumber : Token → Bool
  | number _ => true
  | _ => false

def isFunction : Token → Bool
  | function _ => true
  | _ => false

def isOpenParen : Token → Bool
  | openParen => true
  | _ => false

def isCloseParen : Token → Bool
  | closeParen => true
  | _ => false

/-- How tightly a token binds what stands around it: only operators bind at all. -/
def rank : Token → Nat
  | operator infixed => infixed.rank
  | _ => 0

def text : Token → String
  | number value => value.plainText
  | operator infixed => infixed.symbol.toString
  | function named => named.name
  | mark suffixed => suffixed.symbol.toString
  | openParen => "("
  | closeParen => ")"
  | unknown text => text

/-- The text of a token as a display shows it: a number must not be too long. -/
def render (context : Context) : Token → Except CalculationError String
  | number value => value.render context
  | token => .ok token.text

def renderAll (context : Context) (tokens : List Token) : Except CalculationError String :=
  (tokens.mapM (render context)).map (String.intercalate " ")

end Token

end DecimalCalculator
