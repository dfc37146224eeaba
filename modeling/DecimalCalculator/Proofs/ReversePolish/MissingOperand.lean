import DecimalCalculator.Proofs.Failure

/-!
# Missing operands

A run misses an operand at its first token or nowhere. It begins on an empty stack, where only a
number can stand. Behind that number the stack is never empty again, however the tokens go on: a
token takes what it finds, and puts a value in its place. An operator that finds a single value
takes zero for the other operand, and does not fail.

So the only tokens that are answered by the zero of the empty stack are no tokens at all, and any
other answer is the value at the bottom of the stack.
-/

namespace DecimalCalculator.ReversePolish

variable {context : Context} {token : Token} {tokens : List Token}
variable {stack next : List Decimal} {name : String}

/-! ## One token -/

/-- A token that does not fail leaves a value on the stack. -/
theorem step_ne_nil (stepped : step context stack token = .ok next) : next ≠ [] := by
  have pushed {result : Except CalculationError Decimal} {rest : List Decimal}
      (mapped : result.map (· :: rest) = .ok next) : next ≠ [] := by
    rcases map_eq_ok.1 mapped with ⟨value, -, rfl⟩
    exact List.cons_ne_nil value rest
  cases token with
  | number value =>
      cases stepped
      exact List.cons_ne_nil value stack
  | operator _ | mark _ | function _ =>
      cases stack with
      | nil => cases stepped
      | cons operand rest => exact pushed stepped
  | openParen | closeParen | unknown _ => cases stack <;> cases stepped

/-- A token never misses an operand above a value. -/
theorem step_ne_missingOperand (nonempty : stack ≠ []) :
    step context stack token ≠ .error (.missingOperand name) := by
  intro failed
  rcases List.exists_cons_of_ne_nil nonempty with ⟨operand, rest, rfl⟩
  cases token with
  | number value => cases failed
  | operator infixed => exact Operator.apply_cause (map_eq_error.1 failed) trivial
  | mark suffixed => exact Mark.apply_cause (map_eq_error.1 failed) trivial
  | function named => exact UnaryFunction.apply_cause (map_eq_error.1 failed) trivial
  | openParen | closeParen | unknown _ => cases failed

/-- On the empty stack every token but a number misses an operand. -/
theorem step_nil (notNumber : ¬token.isNumber) :
    step context [] token = .error (.missingOperand token.text) := by
  cases token with
  | number value => exact absurd rfl notNumber
  | _ => rfl

/-! ## Runs -/

/-- A run above a value leaves a value. -/
theorem runFrom_ne_nil (nonempty : stack ≠ [])
    (ran : runFrom context stack tokens = .ok next) : next ≠ [] := by
  induction tokens generalizing stack with
  | nil =>
      cases ran
      exact nonempty
  | cons token tokens ih =>
      rw [runFrom_cons] at ran
      rcases bind_eq_ok.1 ran with ⟨middle, stepped, ran⟩
      exact ih (step_ne_nil stepped) ran

theorem runFrom_ne_missingOperand (nonempty : stack ≠ []) :
    runFrom context stack tokens ≠ .error (.missingOperand name) := by
  induction tokens generalizing stack with
  | nil =>
      intro failed
      cases failed
  | cons token tokens ih =>
      intro failed
      rw [runFrom_cons] at failed
      rcases bind_eq_error.1 failed with failed | ⟨middle, stepped, failed⟩
      · exact step_ne_missingOperand nonempty failed
      · exact ih (step_ne_nil stepped) failed

/-- A run of at least one token leaves a value, also on the empty stack. -/
theorem runFrom_cons_ne_nil
    (ran : runFrom context stack (token :: tokens) = .ok next) : next ≠ [] := by
  rw [runFrom_cons] at ran
  rcases bind_eq_ok.1 ran with ⟨middle, stepped, ran⟩
  exact runFrom_ne_nil (step_ne_nil stepped) ran

/-- On the empty stack an operand is missed by the first token or by none. -/
theorem runFrom_nil_eq_missingOperand_iff :
    runFrom context [] tokens = .error (.missingOperand name) ↔
      ∃ first rest, tokens = first :: rest ∧ ¬first.isNumber ∧ first.text = name := by
  constructor
  · intro failed
    cases tokens with
    | nil => cases failed
    | cons first rest =>
        refine ⟨first, rest, rfl, ?_⟩
        by_cases isNumber : first.isNumber
        · cases first with
          | number value =>
              have behind : runFrom context [value] rest = .error (.missingOperand name) := failed
              exact absurd behind (runFrom_ne_missingOperand (List.cons_ne_nil value []))
          | _ => cases isNumber
        · rw [runFrom_cons, step_nil isNumber] at failed
          cases failed
          exact ⟨isNumber, rfl⟩
  · rintro ⟨first, rest, rfl, notNumber, rfl⟩
    rw [runFrom_cons, step_nil notNumber]
    rfl

theorem renderBottom_ne_missingOperand :
    renderBottom context stack ≠ .error (.missingOperand name) := by
  intro failed
  simp only [renderBottom] at failed
  split at failed
  · cases failed
  · cases Decimal.render_cause failed

/-- A run misses an operand exactly if it has a first token that is no number, and it is the operand
of this token. At every place behind the first token the stack holds a value, so no tokens at all
are answered by zero, and all others by the value at the bottom of the stack if they do not fail. -/
theorem run_eq_missingOperand_iff (context : Context) (tokens : List Token) :
    (∀ name, run context tokens = .error (.missingOperand name) ↔
        ∃ first rest, tokens = first :: rest ∧ ¬first.isNumber ∧ first.text = name) ∧
      (∀ front stack, front <+: tokens → runFrom context [] front = .ok stack →
        (stack = [] ↔ front = [])) ∧
      (tokens = [] → run context tokens = .ok "0") ∧
      (tokens ≠ [] → ∀ stack, runFrom context [] tokens = .ok stack →
        ∃ bottom, stack.getLast? = some bottom ∧ run context tokens = bottom.render context) := by
  have held {front : List Token} {stack : List Decimal}
      (ran : runFrom context [] front = .ok stack) : stack = [] ↔ front = [] := by
    cases front with
    | nil =>
        cases ran
        exact ⟨fun _ => rfl, fun _ => rfl⟩
    | cons first rest => exact ⟨fun empty => absurd empty (runFrom_cons_ne_nil ran), by simp⟩
  refine ⟨?_, ?_, ?_, ?_⟩
  · intro name
    rw [← @runFrom_nil_eq_missingOperand_iff context, run, bind_eq_error]
    constructor
    · rintro (failed | ⟨stack, -, failed⟩)
      · exact failed
      · exact absurd failed renderBottom_ne_missingOperand
    · exact .inl
  · intro front stack _ ran
    exact held ran
  · rintro rfl
    rfl
  · intro nonempty stack ran
    have bottom : stack ≠ [] := fun empty => nonempty ((held ran).1 empty)
    refine ⟨stack.getLast bottom, List.getLast?_eq_some_getLast bottom, ?_⟩
    rw [run, ran]
    simp only [Except.bind, renderBottom, List.getLast?_eq_some_getLast bottom]

end DecimalCalculator.ReversePolish
