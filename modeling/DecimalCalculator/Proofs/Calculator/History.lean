import DecimalCalculator.Proofs.Calculator.Preview

/-!
# The history and the log of accepted texts

The history keeps three equations. It is compared here with a log that keeps all of them: the texts
that the key of equality has accepted since the history was last cleared. The log is read off the
keys and the displays alone. It knows nothing of the preview, and finds the answer of a text by
evaluating the text again.

The history of every calculator that can be reached is the beginning of this log, with an equation
for each text. One key either puts one equation in front of both, or clears both, or leaves both as
they are. That an equation holds the answer to its text rests on the preview being in step, because
the key of equality takes the answer from there.
-/

namespace DecimalCalculator.Calculator

variable {context : Context} {scientific : Bool} {calculator : Calculator} {keys : List Key}

/-- Whether there is something to accept: the display is not empty and has an answer. -/
def accepts (calculator : Calculator) : Bool :=
  calculator.display != emptyDisplay &&
    answer calculator.context calculator.display != errorMarker

/-- The texts accepted along a run and not cleared in it, the latest first. -/
def log (calculator : Calculator) : List Key → List String
  | [] => []
  | key :: keys =>
    (calculator.press key).log keys ++
      if key = .equals ∧ calculator.accepts ∧ .clearHistory ∉ keys then [calculator.display]
      else []

/-- The equation of a text and its answer. -/
def equationOf (context : Context) (text : String) : String :=
  text ++ " = " ++ answer context text

theorem accepts_iff :
    calculator.accepts ↔ calculator.display ≠ emptyDisplay ∧
      answer calculator.context calculator.display ≠ errorMarker := by
  simp [accepts]

/-- The texts of the log are those displayed when the key of equality accepted them, and the history
was not cleared after that. -/
theorem mem_log_iff {text : String} :
    text ∈ calculator.log keys ↔
      ∃ front back, keys = front ++ .equals :: back ∧ .clearHistory ∉ back ∧
        (calculator.pressAll front).accepts ∧ text = (calculator.pressAll front).display := by
  induction keys generalizing calculator with
  | nil => simp [log]
  | cons key keys ih =>
      rw [log, List.mem_append, ih]
      constructor
      · rintro (⟨front, back, rfl, kept, accepted, rfl⟩ | member)
        · exact ⟨key :: front, back, rfl, kept, accepted, rfl⟩
        · split at member
          next accepted =>
            rcases accepted with ⟨rfl, accepted, kept⟩
            exact ⟨[], keys, rfl, kept, accepted, List.mem_singleton.1 member⟩
          next => cases member
      · rintro ⟨front, back, split, kept, accepted, rfl⟩
        cases front with
        | nil =>
            rcases List.cons_eq_cons.1 split with ⟨rfl, rfl⟩
            right
            rw [if_pos ⟨rfl, accepted, kept⟩]
            exact List.mem_singleton_self _
        | cons first front =>
            rcases List.cons_eq_cons.1 split with ⟨rfl, rfl⟩
            exact .inl ⟨front, back, rfl, kept, accepted, rfl⟩

/-! ## The key of equality -/

/-- The preview tells whether there is something to accept. -/
theorem InStep.isAnswer_preview (inStep : calculator.InStep) :
    calculator.preview.isAnswer = calculator.accepts := by
  rw [inStep.previewed]
  by_cases idle : calculator.display = emptyDisplay
  · rw [idle, Preview.ofDisplay_emptyDisplay]
    simp [accepts, idle, Preview.isAnswer, Preview.blank]
  · have nonempty : (answer calculator.context calculator.display).isEmpty = false :=
      String.isEmpty_eq_false_iff.2 (answer_ne_empty _ _)
    have notIdle : (calculator.display != emptyDisplay) = true := bne_iff_ne.2 idle
    rw [Preview.isAnswer, Preview.text_ofDisplay inStep.displayed idle, accepts, nonempty, notIdle]
    rfl

theorem InStep.equation_eq (inStep : calculator.InStep) (accepted : calculator.accepts) :
    calculator.equation = equationOf calculator.context calculator.display := by
  have notIdle := (accepts_iff.1 accepted).1
  rw [equation, inStep.previewed, Preview.text_ofDisplay inStep.displayed notIdle]
  rfl

theorem InStep.refresh_eq (inStep : calculator.InStep) : calculator.refresh = calculator := by
  rw [refresh, ← inStep.previewed]

/-- Where there is nothing to accept the key of equality changes nothing. -/
theorem InStep.press_equals (inStep : calculator.InStep) (refused : ¬calculator.accepts) :
    calculator.press .equals = calculator := by
  rw [← inStep.isAnswer_preview] at refused
  simp only [press, apply, accept, refused]
  exact inStep.refresh_eq

/-! ## The history -/

/-- Two keys change the history, and no other. -/
theorem history_press_of_ne {key : Key} (notEquals : key ≠ .equals)
    (notClear : key ≠ .clearHistory) (calculator : Calculator) :
    (calculator.press key).history = calculator.history := by
  rcases calculator.apply_cases key with ⟨display, applied⟩ | ⟨equals, -⟩ | ⟨clear, -⟩ |
    ⟨-, applied⟩
  · rw [press, applied]
    rfl
  · exact absurd equals notEquals
  · exact absurd clear notClear
  · rw [press, applied]
    rfl

theorem InStep.history_press_equals (inStep : calculator.InStep) (accepted : calculator.accepts) :
    (calculator.press .equals).history =
      (equationOf calculator.context calculator.display :: calculator.history).take
        historyLimit := by
  rw [← inStep.equation_eq accepted]
  rw [← inStep.isAnswer_preview] at accepted
  simp [press, refresh, apply, accept, accepted]

/-- A key puts the equation that it accepts in front of the history, unless it clears the history,
and cuts the history to its limit. -/
theorem InStep.history_press (inStep : calculator.InStep)
    (bounded : calculator.history.length ≤ historyLimit) (key : Key) :
    (calculator.press key).history =
      ((if key = .equals ∧ calculator.accepts then
          [equationOf calculator.context calculator.display] else []) ++
        if key = .clearHistory then [] else calculator.history).take historyLimit := by
  by_cases clear : key = .clearHistory
  · subst clear
    rfl
  by_cases equals : key = .equals
  · subst equals
    by_cases accepted : calculator.accepts
    · simp [inStep.history_press_equals accepted, accepted]
    · rw [inStep.press_equals accepted]
      simp [accepted, List.take_of_length_le bounded]
  · rw [history_press_of_ne equals clear]
    simp [equals, clear, List.take_of_length_le bounded]

theorem take_append_take {α : Type} (front back : List α) (limit : Nat) :
    (front ++ back.take limit).take limit = (front ++ back).take limit := by
  simp [List.take_append, List.take_take]

/-- The history behind a run is the beginning of the log of the run, with the history from which
the run started behind it unless it has been cleared. -/
theorem InStep.history_pressAll (inStep : calculator.InStep)
    (bounded : calculator.history.length ≤ historyLimit) (keys : List Key) :
    (calculator.pressAll keys).history =
      ((calculator.log keys).map (equationOf calculator.context) ++
        if .clearHistory ∈ keys then [] else calculator.history).take historyLimit := by
  induction keys generalizing calculator with
  | nil => simp [pressAll, log, List.take_of_length_le bounded]
  | cons key keys ih =>
      have pressed := inStep.history_press bounded key
      have stillBounded : (calculator.press key).history.length ≤ historyLimit := by
        rw [pressed]
        exact List.length_take_le _ _
      have rest := ih (inStep_press inStep key) stillBounded
      rw [context_press] at rest
      rw [pressAll, List.foldl_cons]
      refine rest.trans ?_
      rw [log]
      by_cases cleared : .clearHistory ∈ keys
      · simp [cleared]
      · rw [pressed, if_neg cleared, take_append_take]
        by_cases clear : key = .clearHistory
        · simp [clear]
        · have kept : .clearHistory ∉ key :: keys := by
            simp [cleared, Ne.symm clear]
          simp only [if_neg kept, if_neg clear, cleared, not_false_eq_true, and_true,
            List.map_append, List.append_assoc]
          split <;> rfl

theorem not_accepts_iff (calculator : Calculator) :
    ¬calculator.accepts ↔ calculator.display = "0" ∨
      ∃ cause, evaluate calculator.context calculator.display = .error cause := by
  cases evaluated : evaluate calculator.context calculator.display with
  | error cause => simp [accepts, answer_of_failure evaluated]
  | ok evaluation => simp [accepts, answer_ne_errorMarker evaluated, emptyDisplay]

/-- The history of a calculator that can be reached is made of the last three texts of the log, the
latest first, each with its answer. Every text of the log was on display when the key of equality
was pressed, was not the empty display, and has an answer; the history has not been cleared since.
Where there is no answer the key of equality changes nothing, and apart from its success only
clearing changes the history. -/
theorem history_of_reached (reached : ofKeys context scientific keys = calculator) :
    calculator.history =
        (((fresh context scientific).log keys).map
          fun text => text ++ " = " ++ answer context text).take 3 ∧
      (∀ text, text ∈ (fresh context scientific).log keys ↔
        ∃ front back, keys = front ++ .equals :: back ∧ .clearHistory ∉ back ∧
          text = (ofKeys context scientific front).display ∧ text ≠ "0" ∧
            answer context text ≠ "Error") ∧
      ((calculator.display = "0" ∨
          ∃ cause, evaluate context calculator.display = .error cause) →
        calculator.press .equals = calculator) ∧
      ∀ key, (calculator.press key).history ≠ calculator.history →
        key = .clearHistory ∨
          key = .equals ∧ calculator.display ≠ "0" ∧
            ∃ evaluation, evaluate context calculator.display = .ok evaluation := by
  subst reached
  have inStep := inStep_ofKeys context scientific keys
  have sameContext := context_ofKeys context scientific keys
  have refusedIff := not_accepts_iff (ofKeys context scientific keys)
  rw [sameContext] at refusedIff
  refine ⟨?_, ?_, ?_, ?_⟩
  · have history := (inStep_fresh context scientific).history_pressAll (Nat.zero_le _) keys
    have noHistory : (fresh context scientific).history = [] := rfl
    rw [noHistory, ite_self, List.append_nil] at history
    exact history
  · intro text
    rw [mem_log_iff]
    constructor
    · rintro ⟨front, back, split, kept, accepted, rfl⟩
      rcases accepts_iff.1 accepted with ⟨notIdle, answered⟩
      rw [context_pressAll] at answered
      exact ⟨front, back, split, kept, rfl, notIdle, answered⟩
    · rintro ⟨front, back, split, kept, rfl, notIdle, answered⟩
      refine ⟨front, back, split, kept, accepts_iff.2 ⟨notIdle, ?_⟩, rfl⟩
      rw [context_pressAll]
      exact answered
  · intro nothing
    exact inStep.press_equals (refusedIff.2 nothing)
  · intro key changed
    by_cases clear : key = .clearHistory
    · exact .inl clear
    by_cases equals : key = .equals
    · subst equals
      right
      have accepted : (ofKeys context scientific keys).accepts := by
        by_contra refused
        exact changed (by rw [inStep.press_equals refused])
      rcases accepts_iff.1 accepted with ⟨notIdle, answered⟩
      rw [sameContext] at answered
      exact ⟨rfl, notIdle, exists_evaluation answered⟩
    · exact absurd (history_press_of_ne equals clear _) changed

/-- An accepted quotient stays in the history when the display is cleared, and the key of equality
then has nothing to accept. -/
theorem history_of_reached_quotient :
    ∃ calculator, ofKeys Context.default true
          [.character '1', .character '/', .character '4', .equals, .clear] = calculator ∧
        calculator.history = ["1/4 = 0.25"] ∧ calculator.press .equals = calculator := by
  have reached : ofKeys Context.default true
      [.character '1', .character '/', .character '4', .equals, .clear] = _ := rfl
  refine ⟨_, rfl, ?_, ?_⟩
  · exact (history_of_reached reached).1.trans (by decide)
  · exact (history_of_reached reached).2.2.1 (.inl (by decide))

end DecimalCalculator.Calculator
