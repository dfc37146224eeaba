import DecimalCalculator.Proofs.Decimal.PlainText
import DecimalCalculator.Proofs.Machine.Run

/-!
# The form of an answer

A text that is a number is its own answer. Any other text is answered by a plain text, or by
the error marker if its evaluation fails. Plain texts are numbers again and the marker is none,
so an answer tells by itself whether the evaluation failed, and answering an answer changes
nothing, under whatever context it is read.

A machine gives these answers as long as the words of the evaluation hold their numbers. Where one
of them does not, it gives no answer of any form.
-/

namespace DecimalCalculator

variable {context : Context} {text : String}

theorem exists_render_of_run {tokens : List Token}
    (ran : ReversePolish.run context tokens = .ok text) :
    ∃ value : Decimal, value.render context = .ok text := by
  rcases bind_eq_ok.1 ran with ⟨stack, -, rendered⟩
  simp only [ReversePolish.renderBottom] at rendered
  split at rendered
  · refine ⟨Decimal.zero, ?_⟩
    rw [← rendered]
    rfl
  · exact ⟨_, rendered⟩

/-- A text that is no number and has a value shows the result of its run. -/
theorem run_of_evaluate {evaluation : Evaluation}
    (evaluated : evaluate context text = .ok evaluation)
    (notLiteral : ¬(Decimal.parse? text).isSome) :
    ReversePolish.run context (ReversePolish.ofTokens (expressionTokens text)) =
      .ok evaluation.result := by
  rw [evaluate, if_neg notLiteral] at evaluated
  rcases bind_eq_ok.1 evaluated with ⟨derivation, -, evaluated⟩
  rcases bind_eq_ok.1 evaluated with ⟨result, ran, evaluated⟩
  cases evaluated
  exact ran

/-- The derivation of a text that is no number shows its tokens in both orders. -/
theorem renderAll_of_evaluate {evaluation : Evaluation}
    (evaluated : evaluate context text = .ok evaluation)
    (notLiteral : ¬(Decimal.parse? text).isSome) :
    Token.renderAll context (expressionTokens text) = .ok evaluation.derivation.tokens ∧
      Token.renderAll context (ReversePolish.ofTokens (expressionTokens text)) =
        .ok evaluation.derivation.reversePolish := by
  rw [evaluate, if_neg notLiteral] at evaluated
  rcases bind_eq_ok.1 evaluated with ⟨derivation, derived, evaluated⟩
  rcases bind_eq_ok.1 evaluated with ⟨result, -, evaluated⟩
  rcases bind_eq_ok.1 derived with ⟨tokens, rendered, derived⟩
  rcases bind_eq_ok.1 derived with ⟨reversePolish, reordered, derived⟩
  cases derived
  cases evaluated
  exact ⟨rendered, reordered⟩

theorem exists_render_of_evaluate {evaluation : Evaluation}
    (evaluated : evaluate context text = .ok evaluation)
    (notLiteral : ¬(Decimal.parse? text).isSome) :
    ∃ value : Decimal, value.render context = .ok evaluation.result :=
  exists_render_of_run (run_of_evaluate evaluated notLiteral)

theorem evaluate_of_literal (literal : (Decimal.parse? text).isSome) :
    evaluate context text = .ok (Evaluation.ofLiteral text) := by
  rw [evaluate, if_pos literal]

theorem answer_of_evaluate {evaluation : Evaluation}
    (evaluated : evaluate context text = .ok evaluation) :
    answer context text = evaluation.result := by
  rw [answer, evaluated, Evaluation.shown]

theorem answer_of_failure {cause : CalculationError}
    (failed : evaluate context text = .error cause) : answer context text = errorMarker := by
  rw [answer, failed, Evaluation.shown]

theorem answer_of_literal (literal : (Decimal.parse? text).isSome) :
    answer context text = text :=
  answer_of_evaluate (evaluate_of_literal literal)

theorem parse?_of_isPlain (plain : IsPlain text.toList) : (Decimal.parse? text).isSome :=
  Option.isSome_iff_exists.2 plain.exists_ofChars?

/-! ## The error marker -/

theorem parse?_errorMarker : Decimal.parse? errorMarker = none := by
  decide

/-- The marker is a word without a meaning, and so has no value. -/
theorem evaluate_errorMarker (context : Context) :
    evaluate context errorMarker = .error (.missingOperand errorMarker) := by
  have tokens : expressionTokens errorMarker = [.unknown errorMarker] := by decide
  rw [evaluate, parse?_errorMarker, tokens]
  rfl

theorem parse?_answer_of_evaluate {evaluation : Evaluation}
    (evaluated : evaluate context text = .ok evaluation) :
    (Decimal.parse? (answer context text)).isSome := by
  by_cases literal : (Decimal.parse? text).isSome
  · rwa [answer_of_literal literal]
  · rcases exists_render_of_evaluate evaluated literal with ⟨value, rendered⟩
    rw [answer_of_evaluate evaluated]
    exact parse?_of_isPlain (Decimal.isPlain_of_render rendered)

theorem answer_ne_errorMarker {evaluation : Evaluation}
    (evaluated : evaluate context text = .ok evaluation) : answer context text ≠ errorMarker := by
  intro marker
  have parsed := parse?_answer_of_evaluate evaluated
  rw [marker, parse?_errorMarker] at parsed
  cases parsed

theorem exists_evaluation (answered : answer context text ≠ errorMarker) :
    ∃ evaluation, evaluate context text = .ok evaluation := by
  cases evaluated : evaluate context text with
  | error cause => exact absurd (answer_of_failure evaluated) answered
  | ok evaluation => exact ⟨evaluation, rfl⟩

theorem run_of_answer (answered : answer context text ≠ errorMarker)
    (notLiteral : Decimal.parse? text = none) :
    ReversePolish.run context (ReversePolish.ofTokens (expressionTokens text)) =
      .ok (answer context text) := by
  rcases exists_evaluation answered with ⟨evaluation, evaluated⟩
  rw [answer_of_evaluate evaluated]
  exact run_of_evaluate evaluated (by simp [notLiteral])

/-! ## Forms of an answer -/

/-- Answering an answer changes nothing, under any two contexts. -/
theorem answer_answer (first second : Context) (text : String) :
    answer second (answer first text) = answer first text := by
  cases evaluated : evaluate first text with
  | error cause =>
      rw [answer_of_failure evaluated]
      exact answer_of_failure (evaluate_errorMarker second)
  | ok evaluation => exact answer_of_literal (parse?_answer_of_evaluate evaluated)

/-! ## Answers of a machine -/

namespace Machine

/-- A zero of ten decimals is raised to the largest exponent, and the zero that this gives is raised
again: the order of a zero is not looked at, and its scale is multiplied each time. -/
theorem evaluate_raised_zero :
    evaluate Context.default "(0.0000000000^999999999)^999999999" =
      .error (.scale 9999999960000000040) := by
  decide +kernel

end Machine

end DecimalCalculator
