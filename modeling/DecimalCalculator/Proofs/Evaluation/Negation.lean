import DecimalCalculator.Proofs.Decimal.Literal
import DecimalCalculator.Proofs.Evaluation.Meaning
import DecimalCalculator.Proofs.Evaluation.Tokens
import DecimalCalculator.Proofs.Expression.Text

/-!
# A minus sign between an operator and a group

A minus sign is fused with a number behind it and never with a group. Between an operator and a
group it stays an operator of its own, although no operand stands between the two. It binds no
tighter than any operator, so the one in front of it goes out first: with the first group as its
right operand, and with zero for the left one, which is missing. The minus sign then subtracts
the second group from that.

The main statement says this about answers. Behind a plus sign it comes to the same as negating
the second group, behind other operators it does not.
-/

namespace DecimalCalculator

open Token

/-! ## Reading groups -/

theorem split_parenthesized {text : List Char} {lexemes : List Lexeme}
    (cut : Lexeme.split text = lexemes) (rest : List Char) :
    Lexeme.split ('(' :: (text ++ ')' :: rest)) =
      ['('] :: (lexemes ++ [')'] :: Lexeme.split rest) := by
  rw [Lexeme.split_symbol rfl, Lexeme.split_append, cut, Lexeme.split_symbol rfl]
  intro kind _ first
  exact (Option.some.inj first).symm

theorem ofLexemes_parenthesized {tokens : List Token} {lexemes : List Lexeme}
    (ordered : (openParen :: tokens).IsChain CanFollow) (spelled : Spelled tokens lexemes)
    (opening : Bool) (rest : List Lexeme) :
    ofLexemes opening (['('] :: (lexemes ++ [')'] :: rest)) =
      openParen :: (tokens ++ closeParen :: ofLexemes false rest) := by
  rw [ofLexemes_single (.inr (by decide)), Spells.openParen.ofLexeme, Spells.openParen.opensOperand,
    ofLexemes_spelled spelled ordered, ofLexemes_single (.inr (by decide)),
    Spells.closeParen.ofLexeme, Spells.closeParen.opensOperand]
  rfl

/-- A minus sign in front of a group is an operator, also where an operand begins. -/
theorem ofLexemes_minus_group (rest : List Lexeme) :
    ofLexemes true (['-'] :: ['('] :: rest) =
      operator .minus :: ofLexemes true (['('] :: rest) := by
  rw [ofLexemes]
  rfl

/-! ## A sign between an operator and a group -/

/-- The tokens of two groups with an operator and a minus sign between them. -/
def groupMinusGroup (infixed : Operator) (leftTokens rightTokens : List Token) : List Token :=
  openParen :: (leftTokens ++ closeParen :: operator infixed :: operator .minus :: openParen ::
    (rightTokens ++ [closeParen]))

variable {left right : Expression} {leftTokens rightTokens : List Token}

theorem scan_groupMinusGroup {leftText rightText : String} {leftLexemes rightLexemes : List Lexeme}
    (infixed : Operator) (leftOrdered : (openParen :: leftTokens).IsChain CanFollow)
    (leftSpelled : Spelled leftTokens leftLexemes)
    (leftLaidOut : Lexeme.LaidOut leftLexemes leftText.toList)
    (rightOrdered : (openParen :: rightTokens).IsChain CanFollow)
    (rightSpelled : Spelled rightTokens rightLexemes)
    (rightLaidOut : Lexeme.LaidOut rightLexemes rightText.toList) :
    scan (parenthesized leftText ++ infixed.symbol.toString ++ "-" ++ parenthesized rightText) =
      groupMinusGroup infixed leftTokens rightTokens := by
  have characters : (parenthesized leftText ++ infixed.symbol.toString ++ "-" ++
      parenthesized rightText).toList = '(' :: (leftText.toList ++ ')' :: infixed.symbol :: '-' ::
        '(' :: (rightText.toList ++ ')' :: [])) := by
    simp [parenthesized]
  have symbol : Lexeme.kindOf infixed.symbol = some .symbol := by
    cases infixed <;> rfl
  rw [scan, characters, split_parenthesized (split_laidOut leftOrdered leftSpelled leftLaidOut),
    Lexeme.split_symbol symbol, Lexeme.split_symbol rfl,
    split_parenthesized (split_laidOut rightOrdered rightSpelled rightLaidOut), Lexeme.split,
    ofLexemes_parenthesized leftOrdered leftSpelled, ofLexemes_single (.inl rfl),
    (Spells.operator infixed).ofLexeme, (Spells.operator infixed).opensOperand]
  simp only [Token.opensOperand]
  rw [ofLexemes_minus_group, ofLexemes_parenthesized rightOrdered rightSpelled, ofLexemes,
    groupMinusGroup]

/-- An operator that nothing waits for goes out as soon as the minus sign arrives behind it. -/
theorem order_operator_minus (infixed : Operator) (rest : List Token) :
    ReversePolish.order [] (operator infixed :: operator .minus :: rest) =
      operator infixed :: ReversePolish.order [operator .minus] rest := by
  have yields : ReversePolish.yieldsTo (operator .minus) (operator infixed) := by
    cases infixed <;> rfl
  rw [ReversePolish.order, List.takeWhile_nil, List.dropWhile_nil, List.nil_append,
    ReversePolish.order, List.takeWhile_cons_of_pos yields, List.dropWhile_cons_of_pos yields]
  rfl

theorem ofTokens_groupMinusGroup (infixed : Operator) (leftWritten : left.Written .sum leftTokens)
    (rightWritten : right.Written .sum rightTokens) :
    ReversePolish.ofTokens (groupMinusGroup infixed leftTokens rightTokens) =
      left.postOrder ++ operator infixed :: (right.postOrder ++ [operator .minus]) := by
  have leftSettled := ReversePolish.settles_written leftWritten (.openParen .sum [])
  have rightSettled := ReversePolish.settles_written rightWritten
    (.openParen .sum [operator .minus])
  have first := ReversePolish.order_parenthesized leftSettled
    (operator infixed :: operator .minus :: openParen :: (rightTokens ++ [closeParen]))
  have second := ReversePolish.order_parenthesized rightSettled []
  simp only [ReversePolish.releaseFunction, List.append_assoc, List.cons_append, List.nil_append,
    List.append_nil] at first second
  rw [ReversePolish.ofTokens, groupMinusGroup, first, order_operator_minus, second]
  rfl

/-- An operator with one operand below it takes zero for the other one. -/
theorem runFrom_missing_left (context : Context) (infixed : Operator) (operand : Expression)
    (rest : List Token) :
    ReversePolish.runFrom context [] (operand.postOrder ++ operator infixed :: rest) =
      ReversePolish.runFrom context [Decimal.zero]
        (operand.postOrder ++ operator infixed :: rest) := by
  rw [ReversePolish.runFrom_append, ReversePolish.runFrom_append, operand.runFrom_postOrder,
    operand.runFrom_postOrder]
  cases operand.value context <;> rfl

/-! ## Values -/

/-- What the minus sign makes of the operator in front of it: zero and the left group are its
operands, and the right group is subtracted from its result. -/
def zeroMinus (infixed : Operator) (left right : Expression) : Expression :=
  .binary .minus (.group (.binary infixed (.literal Decimal.zero) (.group left))) (.group right)

/-- Adding a group to zero and subtracting another one is adding its opposite. -/
theorem value_zeroMinus_plus (context : Context) (left right : Expression) :
    (zeroMinus .plus left right).value context =
      (Expression.binary .plus (.group left)
        (.group (.binary .minus (.literal Decimal.zero) (.group right)))).value context := by
  simp only [zeroMinus, Expression.value]
  cases left.value context with
  | error cause => rfl
  | ok leftValue =>
      cases right.value context with
      | error cause => rfl
      | ok rightValue => rfl

theorem zeroMinus_writtenIn {infixed : Operator} {leftText rightText : String}
    (leftWritten : left.WrittenIn .sum leftText) (rightWritten : right.WrittenIn .sum rightText) :
    (zeroMinus infixed left right).WrittenIn .sum
      (parenthesized ("0" ++ infixed.symbol.toString ++ parenthesized leftText) ++ "-" ++
        parenthesized rightText) := by
  have zero (level : Level) : (Expression.literal Decimal.zero).WrittenIn level "0" :=
    .loosened (.numeral (.whole (by decide) (by decide))) (by cases level <;> decide)
  have first : (Expression.binary infixed (.literal Decimal.zero) (.group left)).WrittenIn .sum
      ("0" ++ infixed.symbol.toString ++ parenthesized leftText) := by
    refine .loosened (.binary infixed (zero _) (.loosened leftWritten.group ?_)) ?_ <;>
      cases infixed <;> decide
  exact .binary .minus (.loosened first.group (by decide))
    (.loosened rightWritten.group (by decide))

theorem run_groupMinusGroup (context : Context) (infixed : Operator)
    (leftWritten : left.Written .sum leftTokens) (rightWritten : right.Written .sum rightTokens) :
    ReversePolish.run context
        (ReversePolish.ofTokens (groupMinusGroup infixed leftTokens rightTokens)) =
      ((zeroMinus infixed left right).value context).bind (Decimal.render context) := by
  have postOrder : (zeroMinus infixed left right).postOrder = number Decimal.zero ::
      (left.postOrder ++ operator infixed :: (right.postOrder ++ [operator .minus])) := by
    simp [zeroMinus, Expression.postOrder]
  rw [← Expression.run_postOrder, postOrder, ofTokens_groupMinusGroup infixed leftWritten
    rightWritten, ReversePolish.run, runFrom_missing_left]
  rfl

/-- Two groups with an operator and a minus sign between them are answered as every expression
that has the value and the literals of the subtraction. -/
theorem answer_groupMinusGroup {context : Context} {infixed : Operator} {expression : Expression}
    {leftText rightText text : String} (leftWritten : left.WrittenIn .sum leftText)
    (rightWritten : right.WrittenIn .sum rightText) (written : expression.WrittenIn .sum text)
    (notLiteral : '(' ∈ text.toList)
    (sameValue : expression.value context = (zeroMinus infixed left right).value context)
    (sameLiterals : ∀ value, ¬value.Shown context →
      (value ∈ expression.literals ↔ value ∈ left.literals ∨ value ∈ right.literals)) :
    answer context (parenthesized leftText ++ infixed.symbol.toString ++ "-" ++
        parenthesized rightText) = answer context text := by
  rcases leftWritten with ⟨leftTokens, leftLexemes, leftGrammar, leftSpelled, leftLaidOut⟩
  rcases rightWritten with ⟨rightTokens, rightLexemes, rightGrammar, rightSpelled, rightLaidOut⟩
  rcases written with ⟨tokens, lexemes, grammar, spelled, laidOut⟩
  have scanned := scan_groupMinusGroup infixed leftGrammar.isChain_openParen leftSpelled
    leftLaidOut rightGrammar.isChain_openParen rightSpelled rightLaidOut
  have kept : dropPendingOperator (groupMinusGroup infixed leftTokens rightTokens) =
      groupMinusGroup infixed leftTokens rightTokens := by
    have split : groupMinusGroup infixed leftTokens rightTokens =
        (openParen :: (leftTokens ++ closeParen :: operator infixed :: operator .minus ::
          openParen :: rightTokens)) ++ [closeParen] := by
      simp [groupMinusGroup]
    rw [split]
    exact dropPendingOperator_append_last rfl
  apply answer_congr
  · exact Decimal.parse?_eq_none_of_openParen (by simp [parenthesized])
  · exact Decimal.parse?_eq_none_of_openParen notLiteral
  · rw [expressionTokens_written grammar spelled laidOut, expressionTokens, scanned, kept]
    apply result_evaluation_congr
    · intro value notShown
      rw [grammar.number_mem, sameLiterals value notShown, ← leftGrammar.number_mem,
        ← rightGrammar.number_mem]
      simp [groupMinusGroup]
    · rw [run_groupMinusGroup context infixed leftGrammar rightGrammar, ← sameValue,
        ← expression.run_postOrder, ReversePolish.Settles.ofTokens_eq
          (ReversePolish.settles_written grammar (.nil .sum))]

/-- A minus sign between an operator and a group takes the operator apart: its right operand is
the group in front of the sign and its left one is zero, and the group behind the sign is
subtracted from the result. Only behind a plus sign does this negate the group. -/
theorem answer_minus_group (context : Context) {leftText rightText : String}
    (leftWritten : left.WrittenIn .sum leftText) (rightWritten : right.WrittenIn .sum rightText) :
    answer context (parenthesized leftText ++ "+-" ++ parenthesized rightText) =
        answer context
          (parenthesized leftText ++ "+" ++ parenthesized ("0-" ++ parenthesized rightText)) ∧
      ∀ infixed : Operator,
        answer context (parenthesized leftText ++ infixed.symbol.toString ++ "-" ++
            parenthesized rightText) =
          answer context (parenthesized ("0" ++ infixed.symbol.toString ++
            parenthesized leftText) ++ "-" ++ parenthesized rightText) := by
  have zeroShown (value : Decimal) (notShown : ¬value.Shown context) : value ≠ Decimal.zero := by
    rintro rfl
    exact notShown ⟨"0", rfl⟩
  refine ⟨?_, ?_⟩
  · have zero : (Expression.literal Decimal.zero).WrittenIn .sum "0" :=
      .loosened (.numeral (.whole (by decide) (by decide))) (by decide)
    have opposite := Expression.WrittenIn.binary .minus zero
      (.loosened rightWritten.group (by decide))
    have written := Expression.WrittenIn.binary .plus (.loosened leftWritten.group (by decide))
      (.loosened opposite.group (by decide))
    have signs : "+-" = Operator.plus.symbol.toString ++ "-" := by decide
    have behindZero : "0-" = "0" ++ Operator.minus.symbol.toString := by decide
    rw [signs, ← String.append_assoc, behindZero]
    apply answer_groupMinusGroup leftWritten rightWritten written (by simp [parenthesized])
      (value_zeroMinus_plus context left right).symm
    intro value notShown
    simp [Expression.literals, zeroShown value notShown]
  · intro infixed
    apply answer_groupMinusGroup leftWritten rightWritten
      (zeroMinus_writtenIn leftWritten rightWritten) (by simp [parenthesized]) rfl
    intro value notShown
    simp [zeroMinus, Expression.literals, zeroShown value notShown]

/-- The product of zero and the first group is taken, and the second group is subtracted. -/
theorem answer_minus_group_product :
    (Expression.binary .plus (.literal ⟨2, 0⟩) (.literal ⟨3, 0⟩)).WrittenIn .sum "2+3" ∧
      (Expression.literal ⟨4, 0⟩).WrittenIn .sum "4" ∧
      answer Context.default "(2+3)+-(4)" = "1" ∧ answer Context.default "(2+3)x-(4)" = "-4" := by
  have two : (Expression.literal ⟨2, 0⟩).WrittenIn .operand "2" :=
    .numeral (.whole (by decide) (by decide))
  have three : (Expression.literal ⟨3, 0⟩).WrittenIn .operand "3" :=
    .numeral (.whole (by decide) (by decide))
  have four : (Expression.literal ⟨4, 0⟩).WrittenIn .operand "4" :=
    .numeral (.whole (by decide) (by decide))
  have sum : (Expression.binary .plus (.literal ⟨2, 0⟩) (.literal ⟨3, 0⟩)).WrittenIn .sum "2+3" :=
    .binary .plus (.loosened two (by decide)) (.loosened three (by decide))
  have answered := answer_minus_group Context.default sum (.loosened four (by decide))
  refine ⟨sum, .loosened four (by decide), ?_, ?_⟩
  · exact answered.1.trans (by decide)
  · exact (answered.2 .cross).trans (by decide)

/-- Behind a minus sign, a cross and a slash the group is not negated. -/
theorem answer_minus_group_ne :
    answer Context.default "(5)--(3)" ≠ answer Context.default "(5)-(0-(3))" ∧
      answer Context.default "(5)x-(3)" ≠ answer Context.default "(5)x(0-(3))" ∧
      answer Context.default "(6)/-(3)" ≠ answer Context.default "(6)/(0-(3))" := by
  decide

end DecimalCalculator
