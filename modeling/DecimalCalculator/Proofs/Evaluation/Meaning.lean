import DecimalCalculator.Proofs.Evaluation.Tokens
import DecimalCalculator.Proofs.Expression.Order
import DecimalCalculator.Proofs.Token.Spelling

/-!
# The meaning of written expressions

The evaluation of a text in which an expression is written is the value of the expression. The
text is given in three layers: an expression is written as tokens by the grammar, the tokens are
spelled as lexemes, and the lexemes are laid out in a text with any skipped characters between
them. Cutting, fusing signs, ordering and running undo the layers one after the other.

All literals are shown as a part of the derivation, so a literal that is too long for the
display fails before anything is computed. Otherwise the evaluation fails as the value of the
expression does, for reasons that lie in values and never in tokens.
-/

namespace DecimalCalculator

variable {context : Context} {expression : Expression} {tokens : List Token}

theorem dropPendingOperator_append_last {front : List Token} {last : Token}
    (ends : last.endsOperand) : dropPendingOperator (front ++ [last]) = front ++ [last] := by
  rw [dropPendingOperator, List.reverse_append, List.reverse_singleton, List.singleton_append]
  cases last with
  | operator infixed => cases ends
  | _ => rfl

/-- The tokens of a text in which an expression is written are those it is written with. -/
theorem expressionTokens_written {level : Level} {lexemes : List Lexeme} {text : String}
    (written : expression.Written level tokens) (spelled : Token.Spelled tokens lexemes)
    (laidOut : Lexeme.LaidOut lexemes text.toList) : expressionTokens text = tokens := by
  rw [expressionTokens, Token.scan_laidOut written.isChain_openParen spelled laidOut]
  rcases written.exists_append_last with ⟨front, last, rfl, ends⟩
  exact dropPendingOperator_append_last ends

theorem run_of_written {level : Level} (written : expression.Written level tokens) :
    ReversePolish.run context (ReversePolish.ofTokens tokens) =
      (expression.value context).bind (Decimal.render context) := by
  rw [(ReversePolish.settles_written written (.nil level)).ofTokens_eq, expression.run_postOrder]

/-- The evaluation of the tokens of an expression, when all literals are shown. -/
theorem ofTokens_of_shown {level : Level} (written : expression.Written level tokens)
    (shown : ∀ literal ∈ expression.literals, literal.Shown context) :
    Evaluation.ofTokens context tokens =
      ((expression.value context).bind (Decimal.render context)).map fun result =>
        ⟨result, ⟨String.intercalate " " (tokens.map Token.text),
          String.intercalate " " (expression.postOrder.map Token.text)⟩⟩ := by
  rw [evaluation_of_shown fun value member => shown value ((written.number_mem value).1 member),
    run_of_written written, (ReversePolish.settles_written written (.nil level)).ofTokens_eq]

theorem ofTokens_of_not_shown {level : Level} (written : expression.Written level tokens)
    {literal : Decimal} (member : literal ∈ expression.literals)
    (notShown : ¬literal.Shown context) :
    Evaluation.ofTokens context tokens = .error (.excess .textLength) :=
  evaluation_of_not_shown ((written.number_mem literal).2 member) notShown

theorem not_concernsTokens_of_ofTokens {level : Level} (written : expression.Written level tokens)
    {cause : CalculationError} (failed : Evaluation.ofTokens context tokens = .error cause) :
    ¬cause.ConcernsTokens := by
  by_cases shown : ∀ literal ∈ expression.literals, literal.Shown context
  · rw [ofTokens_of_shown written shown, map_eq_error, bind_eq_error] at failed
    rcases failed with noValue | ⟨value, -, notShown⟩
    · exact Expression.value_cause noValue
    · rw [Decimal.render_cause notShown]
      exact not_false
  · rcases Classical.not_forall.1 shown with ⟨literal, shown⟩
    rcases Classical.not_imp.1 shown with ⟨member, notShown⟩
    rw [ofTokens_of_not_shown written member notShown] at failed
    cases failed
    exact not_false

/-- The evaluation of a text in which an expression is written. A literal that is too long to be
shown makes it fail. Otherwise it is the value of the expression, shown, and its derivation has
the texts of the tokens in both orders. It never misses an operand nor meets an unknown token. -/
theorem evaluate_written (context : Context) {level : Level} {lexemes : List Lexeme}
    {text : String} (written : expression.Written level tokens)
    (spelled : Token.Spelled tokens lexemes) (laidOut : Lexeme.LaidOut lexemes text.toList)
    (notLiteral : Decimal.parse? text = none) :
    ((∃ literal ∈ expression.literals, ¬literal.Shown context) →
        evaluate context text = .error (.excess .textLength)) ∧
      ((∀ literal ∈ expression.literals, literal.Shown context) →
        evaluate context text =
          ((expression.value context).bind (Decimal.render context)).map fun result =>
            ⟨result, ⟨String.intercalate " " (tokens.map Token.text),
              String.intercalate " " (expression.postOrder.map Token.text)⟩⟩) ∧
      ∀ name, evaluate context text ≠ .error (.missingOperand name) ∧
        evaluate context text ≠ .error (.unknownToken name) := by
  have evaluated : evaluate context text = Evaluation.ofTokens context tokens := by
    rw [evaluate, notLiteral, expressionTokens_written written spelled laidOut]
    rfl
  have ofValues : ∀ cause, evaluate context text = .error cause → ¬cause.ConcernsTokens := by
    intro cause failed
    rw [evaluated] at failed
    exact not_concernsTokens_of_ofTokens written failed
  refine ⟨?_, ?_, ?_⟩
  · rintro ⟨literal, member, notShown⟩
    rw [evaluated, ofTokens_of_not_shown written member notShown]
  · intro shown
    rw [evaluated, ofTokens_of_shown written shown]
  · intro name
    exact ⟨fun failed => ofValues _ failed trivial, fun failed => ofValues _ failed trivial⟩

/-- The first sign belongs to the number behind it, a capital letter is skipped, and the quotient
is taken before the product. -/
theorem evaluate_written_quotient :
    Decimal.parse? "6/ -4X x(3!)" = none ∧
      evaluate Context.default "6/ -4X x(3!)" =
        .ok ⟨"-9", ⟨"6 / -4 x ( 3 ! )", "6 -4 / 3 ! x"⟩⟩ := by
  have six : Numeral ['6'] ⟨6, 0⟩ := .whole (by decide) (by decide)
  have four : Numeral ['4'] ⟨4, 0⟩ := .whole (by decide) (by decide)
  have three : Numeral ['3'] ⟨3, 0⟩ := .whole (by decide) (by decide)
  have written : Expression.Written .product
      (.binary .cross (.binary .slash (.literal ⟨6, 0⟩) (.literal ⟨-4, 0⟩))
        (.group (.marked (.literal ⟨3, 0⟩) .factorial)))
      [.number ⟨6, 0⟩, .operator .slash, .number ⟨-4, 0⟩, .operator .cross, .openParen,
        .number ⟨3, 0⟩, .mark .factorial, .closeParen] :=
    .binary .cross (.binary .slash (.loosened (.literal _) (by decide))
      (.loosened (.literal _) (by decide)))
      (.loosened (.group (.loosened (.marked .factorial (.literal _)) (by decide))) (by decide))
  have spelled : Token.Spelled _ _ :=
    .single (.number six) <| .single (.operator .slash) <| .signed four <|
      .single (.operator .cross) <| .single .openParen <| .single (.number three) <|
      .single (.mark .factorial) <| .single .closeParen .nil
  have laidOut : Lexeme.LaidOut [['6'], ['/'], ['-'], ['4'], ['x'], ['('], ['3'], ['!'], [')']]
      "6/ -4X x(3!)".toList := by
    rw [show "6/ -4X x(3!)".toList =
      ['6', '/', ' ', '-', '4', 'X', ' ', 'x', '(', '3', '!', ')'] by decide]
    refine @Lexeme.LaidOut.cons [] _ _ _ (by decide) ?_
    refine @Lexeme.LaidOut.cons [] _ _ _ (by decide) ?_
    refine @Lexeme.LaidOut.cons [' '] _ _ _ (by decide) ?_
    refine @Lexeme.LaidOut.cons [] _ _ _ (by decide) ?_
    refine @Lexeme.LaidOut.cons ['X', ' '] _ _ _ (by decide) ?_
    refine @Lexeme.LaidOut.cons [] _ _ _ (by decide) ?_
    refine @Lexeme.LaidOut.cons [] _ _ _ (by decide) ?_
    refine @Lexeme.LaidOut.cons [] _ _ _ (by decide) ?_
    refine @Lexeme.LaidOut.cons [] _ _ _ (by decide) ?_
    exact .nil (by decide)
  have notLiteral : Decimal.parse? "6/ -4X x(3!)" = none := by decide
  have shown : ∀ literal ∈ [⟨6, 0⟩, ⟨-4, 0⟩, ⟨3, 0⟩], Decimal.Shown Context.default literal := by
    intro literal member
    simp only [List.mem_cons, List.not_mem_nil, or_false] at member
    rcases member with rfl | rfl | rfl <;> exact ⟨_, rfl⟩
  refine ⟨notLiteral, ?_⟩
  rw [(evaluate_written Context.default written spelled laidOut notLiteral).2.1 shown]
  rfl

end DecimalCalculator
