import DecimalCalculator.Binary64.Basic
import DecimalCalculator.Binary64.Conversion
import DecimalCalculator.Binary64.Integer
import DecimalCalculator.Binary64.Nearest
import DecimalCalculator.Binary64.Shortest
import DecimalCalculator.CalculationError
import DecimalCalculator.Calculator
import DecimalCalculator.CommandLine.Outcome
import DecimalCalculator.CommandLine.Request
import DecimalCalculator.Context
import DecimalCalculator.Decimal.Arithmetic
import DecimalCalculator.Decimal.Basic
import DecimalCalculator.Decimal.Factorial
import DecimalCalculator.Decimal.Literal
import DecimalCalculator.Decimal.Plain
import DecimalCalculator.Decimal.Power
import DecimalCalculator.Decimal.Rounding
import DecimalCalculator.Decimal.Scale
import DecimalCalculator.Decimal.Truncation
import DecimalCalculator.Digits
import DecimalCalculator.Evaluation
import DecimalCalculator.Journal.Basic
import DecimalCalculator.Journal.Filter
import DecimalCalculator.Journal.Report
import DecimalCalculator.Key
import DecimalCalculator.Machine.Basic
import DecimalCalculator.Machine.Calculator
import DecimalCalculator.Machine.Decimal
import DecimalCalculator.Machine.Run
import DecimalCalculator.Main
import DecimalCalculator.Powers
import DecimalCalculator.Proofs.Binary64.Size
import DecimalCalculator.Proofs.Calculator.Erasing
import DecimalCalculator.Proofs.Calculator.History
import DecimalCalculator.Proofs.Calculator.Preview
import DecimalCalculator.Proofs.Calculator.Reciprocal
import DecimalCalculator.Proofs.Calculator.SilentKeys
import DecimalCalculator.Proofs.Calculator.Typing
import DecimalCalculator.Proofs.CommandLine.Agreement
import DecimalCalculator.Proofs.Decimal.Accuracy
import DecimalCalculator.Proofs.Decimal.DisplayLimit
import DecimalCalculator.Proofs.Decimal.Division
import DecimalCalculator.Proofs.Decimal.DoubleRounding
import DecimalCalculator.Proofs.Decimal.ExactPower
import DecimalCalculator.Proofs.Decimal.Extent
import DecimalCalculator.Proofs.Decimal.Factorial
import DecimalCalculator.Proofs.Decimal.Grammar
import DecimalCalculator.Proofs.Decimal.Literal
import DecimalCalculator.Proofs.Decimal.Numeral
import DecimalCalculator.Proofs.Decimal.Order
import DecimalCalculator.Proofs.Decimal.PlainText
import DecimalCalculator.Proofs.Decimal.PlainValue
import DecimalCalculator.Proofs.Decimal.PowerGuard
import DecimalCalculator.Proofs.Decimal.Rational
import DecimalCalculator.Proofs.Decimal.RoundTrip
import DecimalCalculator.Proofs.Decimal.Rounding
import DecimalCalculator.Proofs.Decimal.RoundingLaws
import DecimalCalculator.Proofs.Decimal.SameNumber
import DecimalCalculator.Proofs.Decimal.Scale
import DecimalCalculator.Proofs.Decimal.Truncation
import DecimalCalculator.Proofs.Decimal.Uniqueness
import DecimalCalculator.Proofs.Evaluation.Answer
import DecimalCalculator.Proofs.Evaluation.Continuation
import DecimalCalculator.Proofs.Evaluation.Exact
import DecimalCalculator.Proofs.Evaluation.LeadingOperand
import DecimalCalculator.Proofs.Evaluation.LeadingZero
import DecimalCalculator.Proofs.Evaluation.Limits
import DecimalCalculator.Proofs.Evaluation.Literal
import DecimalCalculator.Proofs.Evaluation.Meaning
import DecimalCalculator.Proofs.Evaluation.Negation
import DecimalCalculator.Proofs.Evaluation.PendingOperator
import DecimalCalculator.Proofs.Evaluation.Precision
import DecimalCalculator.Proofs.Evaluation.Printable
import DecimalCalculator.Proofs.Evaluation.ProductSigns
import DecimalCalculator.Proofs.Evaluation.Refusal
import DecimalCalculator.Proofs.Evaluation.Tokens
import DecimalCalculator.Proofs.Expression.Basic
import DecimalCalculator.Proofs.Expression.Frame
import DecimalCalculator.Proofs.Expression.Order
import DecimalCalculator.Proofs.Expression.Text
import DecimalCalculator.Proofs.Expression.Writing
import DecimalCalculator.Proofs.Failure
import DecimalCalculator.Proofs.ReversePolish.Agreement
import DecimalCalculator.Proofs.ReversePolish.Bottom
import DecimalCalculator.Proofs.ReversePolish.Conservation
import DecimalCalculator.Proofs.ReversePolish.Groups
import DecimalCalculator.Proofs.ReversePolish.MissingOperand
import DecimalCalculator.Proofs.Machine.Calculator
import DecimalCalculator.Proofs.Machine.Capacity
import DecimalCalculator.Proofs.Machine.Run
import DecimalCalculator.Proofs.Machine.Words
import DecimalCalculator.Proofs.Token.Continuation
import DecimalCalculator.Proofs.Token.Fusion
import DecimalCalculator.Proofs.Token.Layout
import DecimalCalculator.Proofs.Token.Matching
import DecimalCalculator.Proofs.Token.ReadBack
import DecimalCalculator.Proofs.Token.Rendering
import DecimalCalculator.Proofs.Token.Segmentation
import DecimalCalculator.Proofs.Token.Spelling
import DecimalCalculator.Proofs.Token.Weight
import DecimalCalculator.ReversePolish.Order
import DecimalCalculator.ReversePolish.Run
import DecimalCalculator.Text.Quoted
import DecimalCalculator.Text.Shown
import DecimalCalculator.Token.Basic
import DecimalCalculator.Token.Lexeme
import DecimalCalculator.Token.Scan
import DecimalCalculator.UnaryFunction
import DecimalCalculator.Window
