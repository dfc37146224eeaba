import DecimalCalculator.Proofs.Calculator.History

/-!
# Keys without a part in the calculation

Two keys change nothing that is calculated. One switches the mode, which is only about the buttons
that are seen, and one clears the history. Presses of each can be left out of any keys, and the
calculator ends up the same in all but its mode, or in all but its history.

This is a statement about two runs, and they are compared step by step. No key reads the mode or the
history but to change it, so a key that is pressed in both runs keeps the calculators alike. A press
that is left out of one of them changes what does not count, and computes the preview anew. That the
new preview is the old one is not due to the key: the preview was in step already.
-/

namespace DecimalCalculator

/-- Whether keys remain of others when some presses of one key are left out. -/
inductive Key.LeavesOut (silent : Key) : List Key → List Key → Prop
  | nil : LeavesOut silent [] []
  | press (key : Key) {keys remaining : List Key} (behind : LeavesOut silent keys remaining) :
      LeavesOut silent (key :: keys) (key :: remaining)
  | skip {keys remaining : List Key} (behind : LeavesOut silent keys remaining) :
      LeavesOut silent (silent :: keys) remaining

namespace Calculator

variable {first second : Calculator} {keys remaining : List Key}

/-! ## What a key reads and changes -/

/-- One key changes the mode, and no other. -/
theorem scientific_press_of_ne {key : Key} (notMode : key ≠ .scientific)
    (calculator : Calculator) : (calculator.press key).scientific = calculator.scientific := by
  rcases calculator.apply_cases key with ⟨display, applied⟩ | ⟨-, applied⟩ | ⟨-, applied⟩ |
    ⟨mode, -⟩
  · rw [press, applied]
    rfl
  · rw [press, applied, accept_eq]
    rfl
  · rw [press, applied]
    rfl
  · exact absurd mode notMode

/-- Whether two calculators have calculated the same, in the same context. -/
structure SameCalculation (first second : Calculator) : Prop where
  display : first.display = second.display
  preview : first.preview = second.preview
  context : first.context = second.context

namespace SameCalculation

/-- What a key leaves on display depends on the display and the preview only. -/
theorem display_apply (same : SameCalculation first second) (key : Key) :
    (first.apply key).display = (second.apply key).display := by
  cases key with
  | character typed =>
      by_cases point : typed = '.'
      · subst point
        simp only [apply, append, same.display]
      · simp only [apply_character point, insert_eq, same.display]
  | function named => simp only [apply, insert_eq, same.display]
  | clear => rfl
  | clearHistory | scientific => exact same.display
  | equals => simp only [apply, accept_eq, same.display, same.preview]
  | reciprocal | power => simp only [apply, append, same.display]
  | backspace => simp only [apply, erase, same.display]

theorem press (same : SameCalculation first second) (key : Key) :
    SameCalculation (first.press key) (second.press key) := by
  have context : (first.press key).context = (second.press key).context := by
    simp [same.context]
  have display : (first.press key).display = (second.press key).display := same.display_apply key
  refine ⟨display, ?_, context⟩
  have previewed (calculator : Calculator) : (calculator.press key).preview =
      Preview.ofDisplay (calculator.press key).context (calculator.press key).display := rfl
  rw [previewed, previewed, context, display]

/-- What a key leaves in the history depends on the calculation and the history only. -/
theorem history_press (same : SameCalculation first second)
    (history : first.history = second.history) (key : Key) :
    (first.press key).history = (second.press key).history := by
  by_cases equals : key = .equals
  · subst equals
    simp only [Calculator.press, refresh, apply, accept_eq, equation, same.display, same.preview,
      history]
  by_cases clear : key = .clearHistory
  · subst clear
    rfl
  · rw [history_press_of_ne equals clear, history_press_of_ne equals clear, history]

end SameCalculation

/-! ## The two keys -/

/-- Whether two calculators are the same in all but their modes. -/
structure SameButMode (first second : Calculator) : Prop extends SameCalculation first second where
  history : first.history = second.history

/-- Whether two calculators are the same in all but their histories. -/
structure SameButHistory (first second : Calculator) : Prop
    extends SameCalculation first second where
  scientific : first.scientific = second.scientific

theorem SameButMode.press (same : SameButMode first second) (key : Key) :
    SameButMode (first.press key) (second.press key) :=
  ⟨same.toSameCalculation.press key, same.history_press same.history key⟩

theorem SameButHistory.press (same : SameButHistory first second) (key : Key) :
    SameButHistory (first.press key) (second.press key) := by
  refine ⟨same.toSameCalculation.press key, ?_⟩
  by_cases mode : key = .scientific
  · subst mode
    exact congrArg not same.scientific
  · rw [scientific_press_of_ne mode, scientific_press_of_ne mode, same.scientific]

/-- The key of the mode is not noticed: the preview that it computes is the one that is in step. -/
theorem SameButMode.skip (same : SameButMode first second) (inStep : first.InStep) :
    SameButMode (first.press .scientific) second :=
  ⟨⟨same.display, inStep.previewed.symm.trans same.preview, same.context⟩, same.history⟩

theorem SameButHistory.skip (same : SameButHistory first second) (inStep : first.InStep) :
    SameButHistory (first.press .clearHistory) second :=
  ⟨⟨same.display, inStep.previewed.symm.trans same.preview, same.context⟩, same.scientific⟩

/-! ## Whole runs -/

/-- Two calculators stay alike along two runs if a key that is pressed in both keeps them alike, and
a press that is left out of one run is not noticed between two keys. -/
theorem related_pressAll {silent : Key} {related : Calculator → Calculator → Prop}
    (press : ∀ {first second}, related first second →
      ∀ key, related (first.press key) (second.press key))
    (skip : ∀ {first second}, related first second →
      first.InStep → related (first.press silent) second)
    (leftOut : Key.LeavesOut silent keys remaining) (inStep : first.InStep)
    (alike : related first second) :
    related (first.pressAll keys) (second.pressAll remaining) := by
  -- Only the first run has to be in step: it makes the presses that the second one leaves out.
  induction leftOut generalizing first second with
  | nil => exact alike
  | press key behind ih => exact ih (inStep_press inStep key) (press alike key)
  | skip behind ih => exact ih (inStep_press inStep silent) (skip alike inStep)

/-- Any presses of the key of the mode can be left out, and display, preview and history are the
same in the end. Any presses of the key that clears the history can be left out as well, and
display, preview and mode are the same in the end. -/
theorem ofKeys_leavesOut (context : Context) (scientific : Bool) (keys remaining : List Key) :
    (Key.LeavesOut .scientific keys remaining →
        (ofKeys context scientific remaining).display = (ofKeys context scientific keys).display ∧
          (ofKeys context scientific remaining).preview =
            (ofKeys context scientific keys).preview ∧
          (ofKeys context scientific remaining).history =
            (ofKeys context scientific keys).history) ∧
      (Key.LeavesOut .clearHistory keys remaining →
        (ofKeys context scientific remaining).display = (ofKeys context scientific keys).display ∧
          (ofKeys context scientific remaining).preview =
            (ofKeys context scientific keys).preview ∧
          (ofKeys context scientific remaining).scientific =
            (ofKeys context scientific keys).scientific) := by
  have inStep := inStep_fresh context scientific
  constructor
  · intro leftOut
    have same : SameButMode (ofKeys context scientific keys)
        (ofKeys context scientific remaining) :=
      related_pressAll SameButMode.press SameButMode.skip leftOut inStep ⟨⟨rfl, rfl, rfl⟩, rfl⟩
    exact ⟨same.display.symm, same.preview.symm, same.history.symm⟩
  · intro leftOut
    have same : SameButHistory (ofKeys context scientific keys)
        (ofKeys context scientific remaining) :=
      related_pressAll SameButHistory.press SameButHistory.skip leftOut inStep
        ⟨⟨rfl, rfl, rfl⟩, rfl⟩
    exact ⟨same.display.symm, same.preview.symm, same.scientific.symm⟩

/-- Neither a switch of the mode nor a clearing of the history is seen in the preview. What they do
change is the mode, and the history. -/
theorem ofKeys_leavesOut_quotient :
    Key.LeavesOut .scientific
        [.character '1', .scientific, .character '/', .character '4', .equals, .clearHistory]
        [.character '1', .character '/', .character '4', .equals, .clearHistory] ∧
      Key.LeavesOut .clearHistory
        [.character '1', .character '/', .character '4', .equals, .clearHistory]
        [.character '1', .character '/', .character '4', .equals] ∧
      ∃ switched cleared plain,
        ofKeys Context.default false [.character '1', .scientific, .character '/', .character '4',
            .equals, .clearHistory] = switched ∧
          ofKeys Context.default false [.character '1', .character '/', .character '4',
            .equals, .clearHistory] = cleared ∧
          ofKeys Context.default false [.character '1', .character '/', .character '4',
            .equals] = plain ∧
          plain.preview = cleared.preview ∧ plain.history ≠ cleared.history ∧
          cleared.preview = switched.preview ∧ cleared.scientific ≠ switched.scientific := by
  have switches : Key.LeavesOut .scientific
      [.character '1', .scientific, .character '/', .character '4', .equals, .clearHistory]
      [.character '1', .character '/', .character '4', .equals, .clearHistory] :=
    .press _ <| .skip <| .press _ <| .press _ <| .press _ <| .press _ .nil
  have clears : Key.LeavesOut .clearHistory
      [.character '1', .character '/', .character '4', .equals, .clearHistory]
      [.character '1', .character '/', .character '4', .equals] :=
    .press _ <| .press _ <| .press _ <| .press _ <| .skip .nil
  refine ⟨switches, clears, _, _, _, rfl, rfl, rfl, ?_, ?_, ?_, ?_⟩
  · exact ((ofKeys_leavesOut Context.default false _ _).2 clears).2.1
  · decide
  · exact ((ofKeys_leavesOut Context.default false _ _).1 switches).2.1
  · decide

end Calculator

end DecimalCalculator
