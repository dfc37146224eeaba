import DecimalCalculator.Machine.Calculator
import DecimalCalculator.Proofs.Calculator.Preview
import DecimalCalculator.Proofs.Machine.Run

/-!
# Keys on a machine

Every key has the display evaluated that it leaves. A machine gets through keys exactly if the words
of all these evaluations hold their numbers, and leaves the calculator then as the exact operations
do. In particular it has got through the evaluation of the last display.
-/

namespace DecimalCalculator

/-- The words that keys compute, which are those of the displays that they leave. -/
def Calculator.pressWords (calculator : Calculator) : List Key → List Word
  | [] => []
  | key :: keys =>
    evaluationWords calculator.context (calculator.press key).display ++
      (calculator.press key).pressWords keys

theorem evaluationWords_of_isIdle {display : String} (context : Context) (idle : isIdle display) :
    evaluationWords context display = [] := by
  have blank : display = "" ∨ display = emptyDisplay := by simpa [isIdle] using idle
  rcases blank with rfl | rfl
  · have notLiteral : Decimal.parse? "" = none := by decide
    have tokens : expressionTokens "" = [] := by decide
    rw [evaluationWords, notLiteral, tokens]
    rfl
  · rw [evaluationWords, if_pos (by decide)]

namespace Machine

variable {context : Context} {display : String} {calculator reached : Calculator} {keys : List Key}
variable {word : Word}

/-! ## One key -/

theorem preview_of_not_isIdle (notIdle : isIdle display = false) :
    preview context display = (evaluate context display).map Preview.ofEvaluation := by
  rw [preview, notIdle]
  rfl

theorem preview_eq (context : Context) (display : String) :
    preview context display =
      (check (evaluationWords context display)).map fun _ =>
        Preview.ofDisplay context display := by
  rw [preview, Preview.ofDisplay]
  split
  next idle =>
    rw [evaluationWords_of_isIdle context idle]
    rfl
  next =>
    rw [evaluate_eq]
    cases check (evaluationWords context display) <;> rfl

theorem press_eq (calculator : Calculator) (key : Key) :
    press calculator key =
      (check (evaluationWords calculator.context (calculator.press key).display)).map fun _ =>
        calculator.press key := by
  rw [press, refresh, preview_eq, ← Calculator.context_press calculator key, Calculator.press,
    Calculator.refresh]
  cases check (evaluationWords (calculator.apply key).context (calculator.apply key).display) <;>
    rfl

/-! ## Many keys -/

theorem pressAll_cons (calculator : Calculator) (key : Key) (keys : List Key) :
    pressAll calculator (key :: keys) =
      (press calculator key).bind fun next => pressAll next keys :=
  rfl

theorem pressAll_eq (calculator : Calculator) (keys : List Key) :
    pressAll calculator keys =
      (check (calculator.pressWords keys)).map fun _ => calculator.pressAll keys := by
  induction keys generalizing calculator with
  | nil => rfl
  | cons key keys ih =>
      rw [pressAll_cons, press_eq, Calculator.pressWords, check_append]
      cases check (evaluationWords calculator.context (calculator.press key).display) with
      | error word => rfl
      | ok _ => exact ih (calculator.press key)

theorem pressAll_eq_ok_iff :
    pressAll calculator keys = .ok reached ↔
      (∀ word ∈ calculator.pressWords keys, word.fits) ∧ calculator.pressAll keys = reached := by
  rw [pressAll_eq, checked_eq_ok_iff]

/-- The machine has computed the preview of the display that the keys leave. -/
theorem preview_of_pressAll (nonempty : keys ≠ [])
    (pressed : pressAll calculator keys = .ok reached) :
    preview reached.context reached.display = .ok reached.preview := by
  induction keys generalizing calculator with
  | nil => exact absurd rfl nonempty
  | cons key keys ih =>
      rw [pressAll_cons] at pressed
      rcases bind_eq_ok.1 pressed with ⟨next, first, rest⟩
      cases keys with
      | nil =>
          cases rest
          rcases map_eq_ok.1 first with ⟨shown, previewed, rfl⟩
          exact previewed
      | cons second keys => exact ih (List.cons_ne_nil second keys) rest

/-- The calculator after keys have been pressed on a fresh one. -/
def ofKeys (context : Context) (scientific : Bool) (keys : List Key) : Machine Calculator :=
  pressAll (Calculator.fresh context scientific) keys

theorem ofKeys_eq_ok {scientific : Bool} (pressed : ofKeys context scientific keys = .ok reached) :
    Calculator.ofKeys context scientific keys = reached :=
  (pressAll_eq_ok_iff.1 pressed).2

end Machine

end DecimalCalculator
