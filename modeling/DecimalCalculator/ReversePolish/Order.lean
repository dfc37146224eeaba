import DecimalCalculator.Token.Basic

/-!
# Reverse Polish order

An expression is brought into the order in which it is computed: operands first, then what is
applied to them. Tokens that have to wait are kept in a list, the latest first.

* Numbers and marks go out at once: a mark applies to the value just made.
* Functions and opening parentheses wait.
* A closing parenthesis lets out all that waits back to its opening parenthesis, which
  disappears, and the function that stands right before it.
* An operator lets out what waits and binds at least as tightly, back to the last opening
  parenthesis, and then waits itself. The power sign lets out nothing, so powers group to the
  right.
* An unknown token behaves as an operator that binds less than any other.

At the end all that waits goes out, with opening parentheses that were never closed.
-/

namespace DecimalCalculator.ReversePolish

/-- The waiting tokens after a closing parenthesis has found its opening one: a function that
stood before it goes out. Gives what goes out and what still waits. -/
def releaseFunction : List Token → List Token × List Token
  | .function function :: waiting => ([.function function], waiting)
  | waiting => ([], waiting)

/-- What a closing parenthesis lets out, and what still waits. -/
def close (waiting : List Token) : List Token × List Token :=
  let released := waiting.takeWhile (!·.isOpenParen)
  let (function, remaining) := releaseFunction ((waiting.dropWhile (!·.isOpenParen)).drop 1)
  (released ++ function, remaining)

/-- Whether a waiting token goes out before another one starts to wait. -/
def yieldsTo (arriving waiting : Token) : Bool :=
  arriving != .operator .caret && !waiting.isOpenParen && decide (arriving.rank ≤ waiting.rank)

/-- Brings tokens into reverse Polish order, given those that already wait. -/
def order (waiting : List Token) : List Token → List Token
  | [] => waiting
  | token :: rest =>
    match token with
    | .number _ | .mark _ => token :: order waiting rest
    | .function _ | .openParen => order (token :: waiting) rest
    | .closeParen => (close waiting).1 ++ order (close waiting).2 rest
    | .operator _ | .unknown _ =>
      waiting.takeWhile (yieldsTo token) ++
        order (token :: waiting.dropWhile (yieldsTo token)) rest

def ofTokens (tokens : List Token) : List Token :=
  order [] tokens

end DecimalCalculator.ReversePolish
