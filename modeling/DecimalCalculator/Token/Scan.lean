import DecimalCalculator.Decimal.Literal
import DecimalCalculator.Token.Basic
import DecimalCalculator.Token.Lexeme

/-!
# From text to tokens

Every lexeme is a token by itself, but for one rule. A minus sign where an operand begins,
that is in front of everything or behind an operator or an opening parenthesis, belongs to the
number that follows it; the two make one negative number. A minus sign before anything else
stays an operator. What stands before the sign is judged on the lexeme, not on the token made
of it.
-/

namespace DecimalCalculator.Token

def ofSymbol? (symbol : Char) : Option Token :=
  if symbol == '(' then some openParen
  else if symbol == ')' then some closeParen
  else ((Operator.ofSymbol? symbol).map operator).or ((Mark.ofSymbol? symbol).map mark)

def ofLexeme (lexeme : Lexeme) : Token :=
  match Decimal.ofChars? lexeme with
  | some value => number value
  | none =>
    match UnaryFunction.ofName? (String.ofList lexeme), lexeme with
    | some name, _ => function name
    | none, [symbol] => (ofSymbol? symbol).getD (unknown (String.ofList lexeme))
    | none, _ => unknown (String.ofList lexeme)

/-- The number that a minus sign and the lexeme behind it make together, if they do. The first
argument tells whether an operand begins at the sign. -/
def signedNumber? (opening : Bool) (sign next : Lexeme) : Option Decimal :=
  if opening && sign == ['-'] then (Decimal.ofChars? next).map Decimal.neg else none

/-- The tokens of a list of lexemes. The first argument tells whether an operand begins there. -/
def ofLexemes (opening : Bool) : List Lexeme → List Token
  | [] => []
  | [lexeme] => [ofLexeme lexeme]
  | lexeme :: next :: rest =>
    match signedNumber? opening lexeme next with
    | some value => number value :: ofLexemes next.opensOperand rest
    | none => ofLexeme lexeme :: ofLexemes lexeme.opensOperand (next :: rest)

def scan (text : String) : List Token :=
  ofLexemes true (Lexeme.split text.toList)

end DecimalCalculator.Token
