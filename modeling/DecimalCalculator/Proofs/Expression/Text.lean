import DecimalCalculator.Proofs.Expression.Writing
import DecimalCalculator.Proofs.Token.Spelling

/-!
# Expressions written in texts

A text writes an expression in three steps: the grammar writes it with tokens, the tokens are
spelled as lexemes, and the lexemes are laid out with any skipped characters between them. This
file puts the steps together, so that a statement about texts need not speak of the tokens, and
gives the rules by which larger expressions are written from smaller ones.
-/

namespace DecimalCalculator

/-- A text in parentheses. -/
def parenthesized (text : String) : String :=
  "(" ++ text ++ ")"

namespace Expression

/-- Whether a text writes an expression at a level of the grammar. -/
def WrittenIn (level : Level) (expression : Expression) (text : String) : Prop :=
  ∃ tokens lexemes, expression.Written level tokens ∧ Token.Spelled tokens lexemes ∧
    Lexeme.LaidOut lexemes text.toList

namespace WrittenIn

variable {expression left right : Expression} {text leftText rightText : String}

theorem loosened {tight loose : Level} (written : expression.WrittenIn tight text)
    (ordered : loose.rank ≤ tight.rank) : expression.WrittenIn loose text := by
  rcases written with ⟨tokens, lexemes, writtenTokens, spelled, laidOut⟩
  exact ⟨tokens, lexemes, .loosened writtenTokens ordered, spelled, laidOut⟩

theorem numeral {value : Decimal} (isNumeral : Numeral text.toList value) :
    (literal value).WrittenIn .operand text :=
  ⟨_, _, .literal value, .single (.number isNumeral) .nil, .lexeme text.toList⟩

theorem negative {value : Decimal} (isNumeral : Numeral text.toList value) :
    (literal value.neg).WrittenIn .operand ("-" ++ text) := by
  refine ⟨_, [['-'], text.toList], .literal value.neg, .signed isNumeral .nil, ?_⟩
  simpa using (Lexeme.LaidOut.lexeme ['-']).append (.lexeme text.toList)

theorem group (written : expression.WrittenIn .sum text) :
    (group expression).WrittenIn .operand (parenthesized text) := by
  rcases written with ⟨tokens, lexemes, writtenTokens, spelled, laidOut⟩
  refine ⟨_, ['('] :: (lexemes ++ [[')']]), .group writtenTokens,
    .single .openParen (spelled.append (.single .closeParen .nil)), ?_⟩
  simpa [parenthesized] using
    (Lexeme.LaidOut.lexeme ['(']).append (laidOut.append (.lexeme [')']))

theorem binary (operator : Operator) (leftWritten : left.WrittenIn operator.leftLevel leftText)
    (rightWritten : right.WrittenIn operator.rightLevel rightText) :
    (binary operator left right).WrittenIn operator.level
      (leftText ++ operator.symbol.toString ++ rightText) := by
  rcases leftWritten with ⟨leftTokens, leftLexemes, leftGrammar, leftSpelled, leftLaidOut⟩
  rcases rightWritten with ⟨rightTokens, rightLexemes, rightGrammar, rightSpelled, rightLaidOut⟩
  refine ⟨_, leftLexemes ++ [operator.symbol] :: rightLexemes, .binary operator leftGrammar
    rightGrammar, leftSpelled.append (.single (.operator operator) rightSpelled), ?_⟩
  simpa using leftLaidOut.append ((Lexeme.LaidOut.lexeme [operator.symbol]).append rightLaidOut)

end WrittenIn

end Expression

end DecimalCalculator
