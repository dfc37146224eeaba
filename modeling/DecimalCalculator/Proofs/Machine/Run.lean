import DecimalCalculator.Machine.Run
import DecimalCalculator.Proofs.Failure

/-!
# The machine computes what the exact operations give

A machine only looks at words, and otherwise does what the exact operations do. What it computes is
therefore their result, unless it stops; and it stops exactly if one of the words of the evaluation
does not hold its number. The words are listed here for a whole run and a whole evaluation.
-/

namespace DecimalCalculator

namespace Word

theorem mem_andThen {word : Word} {words : List Word} {more : Unit → List Word}
    (member : word ∈ andThen words more) : word ∈ words ∨ word ∈ more () := by
  rw [andThen] at member
  split at member
  · exact List.mem_append.1 member
  · exact .inl member

end Word

/-- The words that a run computes, up to the step that fails if there is one. -/
def ReversePolish.runWords (context : Context) (stack : List Decimal) : List Token → List Word
  | [] => []
  | token :: tokens =>
    stepWords context stack token ++
      match step context stack token with
      | .ok next => runWords context next tokens
      | .error _ => []

/-- The words that an evaluation computes. There are none if the text is a number, or if its tokens
cannot be shown. -/
def evaluationWords (context : Context) (text : String) : List Word :=
  if (Decimal.parse? text).isSome then []
  else
    match Derivation.ofTokens context (expressionTokens text) with
    | .ok _ => ReversePolish.runWords context [] (ReversePolish.ofTokens (expressionTokens text))
    | .error _ => []

theorem mem_runWords_of_mem_evaluationWords {context : Context} {text : String} {word : Word}
    (member : word ∈ evaluationWords context text) :
    word ∈ ReversePolish.runWords context []
      (ReversePolish.ofTokens (expressionTokens text)) := by
  rw [evaluationWords] at member
  split at member
  · cases member
  split at member
  · exact member
  · cases member

namespace Machine

/-! ## Checks -/

section Check

variable {α : Type} {word : Word} {words : List Word} {value result : α}

theorem check_eq_ok_iff : check words = .ok () ↔ ∀ word ∈ words, word.fits := by
  rw [check]
  split
  next word found =>
    have member := List.mem_of_find?_eq_some found
    have unfit := List.find?_some found
    constructor
    · intro failed
      cases failed
    · intro fits
      simp [fits word member] at unfit
  next absent => simpa using absent

theorem check_eq_error (stopped : check words = .error word) : word ∈ words ∧ ¬word.fits := by
  rw [check] at stopped
  split at stopped
  next found =>
    cases stopped
    exact ⟨List.mem_of_find?_eq_some found, by simpa using List.find?_some found⟩
  next => cases stopped

theorem check_append (front back : List Word) :
    check (front ++ back) = (check front).bind fun _ => check back := by
  simp only [check, List.find?_append]
  cases front.find? (!·.fits) <;> rfl

/-- A checked value is given if all words fit. -/
theorem checked_eq_ok_iff :
    (check words).map (fun _ => value) = .ok result ↔
      (∀ word ∈ words, word.fits) ∧ value = result := by
  rw [map_eq_ok, ← check_eq_ok_iff]
  constructor
  · rintro ⟨⟨⟩, checked, same⟩
    exact ⟨checked, same⟩
  · rintro ⟨checked, same⟩
    exact ⟨(), checked, same⟩

theorem checked_eq_error (stopped : (check words).map (fun _ => value) = .error word) :
    word ∈ words ∧ ¬word.fits :=
  check_eq_error (map_eq_error.1 stopped)

end Check

/-! ## Runs -/

variable {context : Context} {stack : List Decimal} {tokens : List Token} {text : String}

theorem runFrom_eq (context : Context) (stack : List Decimal) (tokens : List Token) :
    runFrom context stack tokens =
      (check (ReversePolish.runWords context stack tokens)).map fun _ =>
        ReversePolish.runFrom context stack tokens := by
  induction tokens generalizing stack with
  | nil => rfl
  | cons token tokens ih =>
      rw [runFrom, step, ReversePolish.runWords, check_append, ReversePolish.runFrom_cons]
      cases check (ReversePolish.stepWords context stack token) with
      | error word => rfl
      | ok _ =>
          cases stepped : ReversePolish.step context stack token with
          | error cause => rfl
          | ok next => exact ih next

theorem run_eq (context : Context) (tokens : List Token) :
    run context tokens =
      (check (ReversePolish.runWords context [] tokens)).map fun _ =>
        ReversePolish.run context tokens := by
  rw [run, runFrom_eq]
  cases check (ReversePolish.runWords context [] tokens) <;> rfl

/-! ## Evaluations -/

theorem evaluate_eq (context : Context) (text : String) :
    evaluate context text =
      (check (evaluationWords context text)).map fun _ =>
        DecimalCalculator.evaluate context text := by
  rw [evaluate, evaluationWords, DecimalCalculator.evaluate]
  split
  next literal => rfl
  next notLiteral =>
    rw [evaluateTokens, Evaluation.ofTokens]
    cases Derivation.ofTokens context (expressionTokens text) with
    | error cause => rfl
    | ok derivation =>
        simp only [run_eq]
        cases check (ReversePolish.runWords context []
          (ReversePolish.ofTokens (expressionTokens text))) with
        | error word => rfl
        | ok _ =>
            cases ReversePolish.run context
              (ReversePolish.ofTokens (expressionTokens text)) <;> rfl

theorem answer_eq (context : Context) (text : String) :
    answer context text =
      (check (evaluationWords context text)).map fun _ =>
        DecimalCalculator.answer context text := by
  rw [answer, evaluate_eq]
  cases check (evaluationWords context text) <;> rfl

theorem run_eq_ok_iff {result : Except CalculationError String} :
    run context tokens = .ok result ↔
      (∀ word ∈ ReversePolish.runWords context [] tokens, word.fits) ∧
        ReversePolish.run context tokens = result := by
  rw [run_eq, checked_eq_ok_iff]

theorem evaluate_eq_ok_iff {result : Except CalculationError Evaluation} :
    evaluate context text = .ok result ↔
      (∀ word ∈ evaluationWords context text, word.fits) ∧
        DecimalCalculator.evaluate context text = result := by
  rw [evaluate_eq, checked_eq_ok_iff]

theorem answer_eq_ok_iff {shown : String} :
    answer context text = .ok shown ↔
      (∀ word ∈ evaluationWords context text, word.fits) ∧
        DecimalCalculator.answer context text = shown := by
  rw [answer_eq, checked_eq_ok_iff]

/-- A machine that stops does so at a word of the evaluation that does not hold its number. -/
theorem evaluate_eq_error {word : Word} (stopped : evaluate context text = .error word) :
    word ∈ evaluationWords context text ∧ ¬word.fits := by
  rw [evaluate_eq] at stopped
  exact checked_eq_error stopped

end Machine

end DecimalCalculator
