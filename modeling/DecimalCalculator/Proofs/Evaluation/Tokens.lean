import DecimalCalculator.Evaluation
import DecimalCalculator.Proofs.ReversePolish.Conservation
import DecimalCalculator.Proofs.Token.Rendering

/-!
# The evaluation of tokens

The evaluation of any tokens is their run, shown. A derivation comes before it and asks that the
display accepts every number among the tokens. As no number is lost on the way to reverse Polish
order, and none is added, the two orders of a derivation ask the same.
-/

namespace DecimalCalculator

variable {context : Context} {tokens : List Token}

theorem evaluation_of_shown (shown : ∀ value, .number value ∈ tokens → value.Shown context) :
    Evaluation.ofTokens context tokens =
      (ReversePolish.run context (ReversePolish.ofTokens tokens)).map fun result =>
        ⟨result, ⟨String.intercalate " " (tokens.map Token.text),
          String.intercalate " " ((ReversePolish.ofTokens tokens).map Token.text)⟩⟩ := by
  have reversePolish := Token.renderAll_of_shown fun value member =>
    shown value ((ReversePolish.mem_ofTokens (by simp) (by simp) tokens).1 member)
  rw [Evaluation.ofTokens, Derivation.ofTokens, Token.renderAll_of_shown shown, reversePolish]
  cases ReversePolish.run context (ReversePolish.ofTokens tokens) <;> rfl

theorem evaluation_of_not_shown {value : Decimal} (member : .number value ∈ tokens)
    (notShown : ¬value.Shown context) :
    Evaluation.ofTokens context tokens = .error (.excess .textLength) := by
  rw [Evaluation.ofTokens, Derivation.ofTokens, Token.renderAll_of_not_shown member notShown]
  rfl

theorem result_evaluation_of_shown
    (shown : ∀ value, .number value ∈ tokens → value.Shown context) :
    (Evaluation.ofTokens context tokens).map Evaluation.result =
      ReversePolish.run context (ReversePolish.ofTokens tokens) := by
  rw [evaluation_of_shown shown]
  cases ReversePolish.run context (ReversePolish.ofTokens tokens) <;> rfl

/-- Tokens of the same numbers whose runs look the same have results that look the same. Numbers that
the display accepts may differ. -/
theorem view_result_congr {α : Type} (view : Except CalculationError String → α)
    {others : List Token}
    (numbers : ∀ value, ¬value.Shown context →
      (.number value ∈ tokens ↔ .number value ∈ others))
    (runs : view (ReversePolish.run context (ReversePolish.ofTokens tokens)) =
      view (ReversePolish.run context (ReversePolish.ofTokens others))) :
    view ((Evaluation.ofTokens context tokens).map Evaluation.result) =
      view ((Evaluation.ofTokens context others).map Evaluation.result) := by
  by_cases shown : ∀ value, .number value ∈ tokens → value.Shown context
  · have othersShown : ∀ value, .number value ∈ others → value.Shown context := by
      intro value member
      by_contra notShown
      exact notShown (shown value ((numbers value notShown).2 member))
    rw [result_evaluation_of_shown shown, result_evaluation_of_shown othersShown, runs]
  · push Not at shown
    rcases shown with ⟨value, member, notShown⟩
    rw [evaluation_of_not_shown member notShown,
      evaluation_of_not_shown ((numbers value notShown).1 member) notShown]

theorem result_evaluation_congr {others : List Token}
    (numbers : ∀ value, ¬value.Shown context →
      (.number value ∈ tokens ↔ .number value ∈ others))
    (runs : ReversePolish.run context (ReversePolish.ofTokens tokens) =
      ReversePolish.run context (ReversePolish.ofTokens others)) :
    (Evaluation.ofTokens context tokens).map Evaluation.result =
      (Evaluation.ofTokens context others).map Evaluation.result :=
  view_result_congr id numbers runs

/-- The answer to a text that is no number is the result of its tokens, or the marker. -/
theorem answer_of_notLiteral {text : String} (notLiteral : Decimal.parse? text = none) :
    answer context text =
      ((Evaluation.ofTokens context (expressionTokens text)).map
        Evaluation.result).toOption.getD errorMarker := by
  rw [answer, evaluate, notLiteral]
  simp only [Option.isSome_none, Bool.false_eq_true, ↓reduceIte]
  cases Evaluation.ofTokens context (expressionTokens text) <;> rfl

theorem answer_congr {text other : String} (notLiteral : Decimal.parse? text = none)
    (otherNotLiteral : Decimal.parse? other = none)
    (same : (Evaluation.ofTokens context (expressionTokens text)).map Evaluation.result =
      (Evaluation.ofTokens context (expressionTokens other)).map Evaluation.result) :
    answer context text = answer context other := by
  rw [answer_of_notLiteral notLiteral, answer_of_notLiteral otherNotLiteral, same]

end DecimalCalculator
