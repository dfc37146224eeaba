import DecimalCalculator.Calculator
import DecimalCalculator.Proofs.Evaluation.Answer

/-!
# The preview is in step with the display

After every key the preview is what the display evaluates to, whatever the key has done to the
display. This file proves it as an invariant of the keys: one lemma says what a key preserves, and
an induction over the keys carries it to every state that a fresh calculator can reach.

A blank preview has to mean that the display is empty, because the key of equality looks at nothing
else. For that the display must never be without characters, which holds as long as no key leaves
it so; and no answer may be without characters, since an accepted answer becomes the display.
-/

namespace DecimalCalculator

/-! ## Answers have characters -/

theorem errorMarker_ne_empty : errorMarker ≠ "" := by
  decide

theorem answer_ne_empty (context : Context) (text : String) : answer context text ≠ "" := by
  intro empty
  cases evaluated : evaluate context text with
  | error cause =>
      rw [answer_of_failure evaluated] at empty
      exact errorMarker_ne_empty empty
  | ok evaluation =>
      have parsed := parse?_answer_of_evaluate evaluated
      rw [empty] at parsed
      exact absurd parsed (by decide)

namespace Preview

variable {context : Context} {display : String}

theorem ofDisplay_emptyDisplay (context : Context) : ofDisplay context emptyDisplay = blank := by
  have idle : isIdle emptyDisplay := by decide
  simp [ofDisplay, idle]

theorem isIdle_eq_false (nonempty : display ≠ "") (notIdle : display ≠ emptyDisplay) :
    isIdle display = false := by
  simp [isIdle, nonempty, notIdle]

theorem text_ofEvaluation (result : Except CalculationError Evaluation) :
    (ofEvaluation result).text = Evaluation.shown result := by
  cases result <;> rfl

theorem ofDisplay_of_evaluate {evaluation : Evaluation} (nonempty : display ≠ "")
    (notIdle : display ≠ emptyDisplay) (evaluated : evaluate context display = .ok evaluation) :
    ofDisplay context display = ⟨evaluation.result, evaluation.derivation⟩ := by
  simp [ofDisplay, ofEvaluation, isIdle_eq_false nonempty notIdle, evaluated]

theorem ofDisplay_of_failure {cause : CalculationError} (nonempty : display ≠ "")
    (notIdle : display ≠ emptyDisplay) (noValue : evaluate context display = .error cause) :
    ofDisplay context display = failed := by
  simp [ofDisplay, ofEvaluation, isIdle_eq_false nonempty notIdle, noValue]

theorem text_ofDisplay (nonempty : display ≠ "") (notIdle : display ≠ emptyDisplay) :
    (ofDisplay context display).text = answer context display := by
  rw [ofDisplay, isIdle_eq_false nonempty notIdle]
  exact text_ofEvaluation (evaluate context display)

theorem text_ofDisplay_eq_empty_iff (nonempty : display ≠ "") :
    (ofDisplay context display).text = "" ↔ display = emptyDisplay := by
  constructor
  · intro blankText
    by_contra notIdle
    rw [text_ofDisplay nonempty notIdle] at blankText
    exact answer_ne_empty context display blankText
  · rintro rfl
    rw [ofDisplay_emptyDisplay]
    rfl

end Preview

namespace Calculator

variable {calculator : Calculator}

/-- The calculator after keys have been pressed on a fresh one. -/
def ofKeys (context : Context) (scientific : Bool) (keys : List Key) : Calculator :=
  (fresh context scientific).pressAll keys

/-- What holds of a calculator between two keys: something is displayed, and the preview is in step
with it. -/
structure InStep (calculator : Calculator) : Prop where
  displayed : calculator.display ≠ ""
  previewed : calculator.preview = Preview.ofDisplay calculator.context calculator.display

/-! ## One key -/

theorem apply_character {typed : Char} (notPoint : typed ≠ '.') (calculator : Calculator) :
    calculator.apply (.character typed) = calculator.insert typed.toString := by
  rw [apply]
  exact notPoint

theorem append_text_ne_empty {text : String} (nonempty : text ≠ "") (front : String) :
    front ++ text ≠ "" := by
  intro empty
  exact nonempty (String.append_eq_empty_iff.1 empty).2

theorem display_insert_ne_empty {text : String} (nonempty : text ≠ "") (calculator : Calculator) :
    (calculator.insert text).display ≠ "" := by
  simp only [insert]
  split
  · exact nonempty
  · exact append_text_ne_empty nonempty calculator.display

theorem display_erase_ne_empty (calculator : Calculator) : calculator.erase.display ≠ "" := by
  simp only [erase]
  split
  · decide
  next kept => simpa using kept

theorem display_accept_ne_empty (displayed : calculator.display ≠ "") :
    calculator.accept.display ≠ "" := by
  simp only [accept]
  split
  next isAnswer =>
    simp only [Preview.isAnswer, Bool.and_eq_true, Bool.not_eq_true', String.isEmpty_eq_false_iff]
      at isAnswer
    exact isAnswer.1
  next => exact displayed

/-- No key leaves the display without characters. -/
theorem display_apply_ne_empty (displayed : calculator.display ≠ "") (key : Key) :
    (calculator.apply key).display ≠ "" := by
  cases key with
  | character typed =>
      simp only [apply]
      split
      · exact append_text_ne_empty (by decide) calculator.display
      · exact display_insert_ne_empty (by simp) calculator
      all_goals contradiction
  | function named => exact display_insert_ne_empty (by cases named <;> decide) calculator
  | clear => exact (by decide : emptyDisplay ≠ "")
  | clearHistory => exact displayed
  | equals => exact display_accept_ne_empty displayed
  | reciprocal => exact append_text_ne_empty (by decide) calculator.display
  | power => exact append_text_ne_empty (by decide) calculator.display
  | backspace => exact display_erase_ne_empty calculator
  | scientific => exact displayed

theorem inStep_press (inStep : calculator.InStep) (key : Key) : (calculator.press key).InStep :=
  ⟨display_apply_ne_empty inStep.displayed key, rfl⟩

theorem insert_eq (text : String) (calculator : Calculator) :
    calculator.insert text =
      { calculator with
        display :=
          if calculator.display = emptyDisplay then text else calculator.display ++ text } := by
  by_cases idle : calculator.display = emptyDisplay <;> simp [insert, append, idle]

theorem accept_eq (calculator : Calculator) :
    calculator.accept =
      { calculator with
        history :=
          if calculator.preview.isAnswer then
            (calculator.equation :: calculator.history).take historyLimit
          else calculator.history
        display :=
          if calculator.preview.isAnswer then calculator.preview.text
          else calculator.display } := by
  by_cases answered : calculator.preview.isAnswer <;> simp [accept, answered]

/-- Three commands apart, a key changes nothing but the display. -/
theorem apply_cases (calculator : Calculator) (key : Key) :
    (∃ display, calculator.apply key = { calculator with display }) ∨
      (key = .equals ∧ calculator.apply key = calculator.accept) ∨
      (key = .clearHistory ∧ calculator.apply key = { calculator with history := [] }) ∨
      key = .scientific ∧
        calculator.apply key = { calculator with scientific := !calculator.scientific } := by
  cases key with
  | character typed =>
      left
      by_cases point : typed = '.'
      · subst point
        exact ⟨_, rfl⟩
      · rw [apply_character point, insert_eq]
        exact ⟨_, rfl⟩
  | function named =>
      left
      rw [apply, insert_eq]
      exact ⟨_, rfl⟩
  | clear | reciprocal | power | backspace => exact .inl ⟨_, rfl⟩
  | equals => exact .inr (.inl ⟨rfl, rfl⟩)
  | clearHistory => exact .inr (.inr (.inl ⟨rfl, rfl⟩))
  | scientific => exact .inr (.inr (.inr ⟨rfl, rfl⟩))

@[simp]
theorem context_press (calculator : Calculator) (key : Key) :
    (calculator.press key).context = calculator.context := by
  rcases calculator.apply_cases key with ⟨display, applied⟩ | ⟨-, applied⟩ | ⟨-, applied⟩ |
    ⟨-, applied⟩
  · rw [press, applied]
    rfl
  · rw [press, applied, accept_eq]
    rfl
  · rw [press, applied]
    rfl
  · rw [press, applied]
    rfl

/-! ## Whole runs -/

theorem inStep_fresh (context : Context) (scientific : Bool) :
    (fresh context scientific).InStep :=
  ⟨(by decide : emptyDisplay ≠ ""), (Preview.ofDisplay_emptyDisplay context).symm⟩

theorem inStep_pressAll (inStep : calculator.InStep) (keys : List Key) :
    (calculator.pressAll keys).InStep := by
  induction keys generalizing calculator with
  | nil => exact inStep
  | cons key keys ih => exact ih (inStep_press inStep key)

@[simp]
theorem context_pressAll (calculator : Calculator) (keys : List Key) :
    (calculator.pressAll keys).context = calculator.context := by
  induction keys generalizing calculator with
  | nil => rfl
  | cons key keys ih => exact (ih (calculator.press key)).trans (context_press calculator key)

theorem inStep_ofKeys (context : Context) (scientific : Bool) (keys : List Key) :
    (ofKeys context scientific keys).InStep :=
  inStep_pressAll (inStep_fresh context scientific) keys

@[simp]
theorem context_ofKeys (context : Context) (scientific : Bool) (keys : List Key) :
    (ofKeys context scientific keys).context = context :=
  context_pressAll _ keys

/-- After any keys something is displayed. The preview is blank exactly where the display is empty,
and is the answer to the display everywhere else, with the derivation of its evaluation if there is
one. -/
theorem preview_of_reached {context : Context} {scientific : Bool} {keys : List Key}
    (reached : ofKeys context scientific keys = calculator) :
    calculator.display ≠ "" ∧
      (calculator.display = "0" → calculator.preview = ⟨"", ⟨"", ""⟩⟩) ∧
      (calculator.display ≠ "0" →
        calculator.preview.text = answer context calculator.display ∧
          calculator.preview.text ≠ "" ∧
          (∀ evaluation, evaluate context calculator.display = .ok evaluation →
            calculator.preview.derivation = evaluation.derivation) ∧
          ∀ cause, evaluate context calculator.display = .error cause →
            calculator.preview.derivation = ⟨"", ""⟩) ∧
      (calculator.preview.text = "" ↔ calculator.display = "0") := by
  subst reached
  rcases inStep_ofKeys context scientific keys with ⟨displayed, previewed⟩
  rw [context_ofKeys] at previewed
  rw [previewed]
  refine ⟨displayed, ?_, ?_, Preview.text_ofDisplay_eq_empty_iff displayed⟩
  · intro idle
    rw [idle]
    exact Preview.ofDisplay_emptyDisplay context
  · intro notIdle
    refine ⟨Preview.text_ofDisplay displayed notIdle, ?_, ?_, ?_⟩
    · intro empty
      exact notIdle ((Preview.text_ofDisplay_eq_empty_iff displayed).1 empty)
    · intro evaluation evaluated
      rw [Preview.ofDisplay_of_evaluate displayed notIdle evaluated]
    · intro cause noValue
      rw [Preview.ofDisplay_of_failure displayed notIdle noValue]
      rfl

/-- Three keys make a text without a value. The key of equality changes nothing then, and erasing
the zero brings the preview back to the number in front of the sign. -/
theorem preview_of_reached_quotient :
    ∃ calculator, ofKeys Context.default false
          [.character '5', .character '/', .character '0', .equals, .backspace] = calculator ∧
        calculator.display = "5/" ∧ calculator.preview.text = "5" := by
  refine ⟨_, rfl, ?_, ?_⟩
  · decide
  · have notIdle := (preview_of_reached (rfl : ofKeys Context.default false
      [.character '5', .character '/', .character '0', .equals, .backspace] = _)).2.2.1
    exact (notIdle (by decide)).1.trans (by decide)

end Calculator

end DecimalCalculator
