import DecimalCalculator.Proofs.ReversePolish.Agreement

/-!
# The value at the bottom of the stack

A token takes its operands from the top of the stack, so what stands below them does not matter to
it. The value at the bottom is reached only by a token that finds nothing else above it.

A zero at the bottom can be left out where an operator takes it for its left operand, since the
operator takes a zero of its own when it finds none. A number that is to be subtracted from that
zero can be replaced by its opposite, if it is only multiplied and divided before. These are the
two ways in which a zero in front of an expression is used up.
-/

namespace DecimalCalculator

/-- How many values a token takes from the stack. A token without a meaning looks for one. -/
def Token.operands : Token → Nat
  | number _ => 0
  | operator _ => 2
  | _ => 1

/-- An agreement on the values before they are changed on one side. -/
theorem Agree.of_map_left {α β γ : Type} {related : β → γ → Prop} {change : α → β}
    {left : Except CalculationError α} {right : Except CalculationError γ}
    (agree : Agree related (left.map change) right) :
    Agree (fun value other => related (change value) other) left right := by
  cases left with
  | ok value =>
      cases agree with
      | values holds => exact .values holds
      | rightExcess bound => exact .rightExcess bound _
  | error cause =>
      cases agree with
      | causes => exact .causes cause
      | leftExcess bound => exact .leftExcess bound _
      | rightExcess bound => exact .rightExcess bound _

/-! ## Opposites -/

namespace Decimal

/-- A quotient is rounded to a number of digits, so opposites have opposite quotients. -/
theorem div_neg (dividend : Decimal) (precision : ℕ) (divisor : Decimal) :
    dividend.neg.div precision divisor = (dividend.div precision divisor).map neg := by
  simp only [div, isZero_neg, longQuotient_neg_left, round_neg]
  split
  · rfl
  split
  · rfl
  · rfl

end Decimal

open Decimal (SameNumber)

variable {context : Context}

/-- Whether an operator has opposite values on opposite left operands. -/
def Operator.IsScaling (operator : Operator) : Prop :=
  operator = cross ∨ operator = star ∨ operator = slash

theorem Operator.IsScaling.agree_apply {operator : Operator} (scaling : operator.IsScaling)
    {left otherLeft : Decimal} (opposite : left.neg.SameNumber otherLeft) (right : Decimal) :
    Agree (fun value other => value.neg.SameNumber other) (operator.apply context left right)
      (operator.apply context otherLeft right) := by
  have product : (left.mul right).neg.SameNumber (otherLeft.mul right) := by
    rw [SameNumber, Decimal.toRat_neg] at opposite
    rw [SameNumber, Decimal.toRat_neg, Decimal.toRat_mul, Decimal.toRat_mul, ← opposite,
      neg_mul]
  rcases scaling with rfl | rfl | rfl
  · exact .values product
  · exact .values product
  · apply Agree.of_map_left
    rw [apply, ← Decimal.div_neg]
    exact Decimal.agree_div opposite (.refl right) context.precision

theorem Mark.agree_percent {operand other : Decimal} (opposite : operand.neg.SameNumber other) :
    Agree (fun value other => value.neg.SameNumber other) (percent.apply context operand)
      (percent.apply context other) := by
  apply Agree.of_map_left
  rw [apply, ← Decimal.div_neg]
  exact Decimal.agree_div opposite (.refl _) context.precision

namespace ReversePolish

variable {height : Nat} {token : Token} {tokens front back : List Token}
variable {stack next : List Decimal} {value other : Decimal}

/-! ## What stands below the operands -/

/-- What stands below its operands does not matter to a token. -/
theorem step_append (enough : token.operands ≤ stack.length) (below : List Decimal) :
    step context (stack ++ below) token = (step context stack token).map (· ++ below) := by
  cases token with
  | number value => rfl
  | operator operator =>
      rcases stack with _ | ⟨right, _ | ⟨left, rest⟩⟩
      · cases enough
      · simp [Token.operands] at enough
      · simp only [step, List.cons_append, List.head?_cons, Option.getD_some, List.tail_cons]
        cases operator.apply context left right <;> rfl
  | mark mark =>
      rcases stack with _ | ⟨operand, rest⟩
      · cases enough
      · simp only [step, List.cons_append]
        cases mark.apply context operand <;> rfl
  | function function =>
      rcases stack with _ | ⟨operand, rest⟩
      · cases enough
      · simp only [step, List.cons_append]
        cases function.apply operand <;> rfl
  | openParen | closeParen | unknown _ =>
      rcases stack with _ | ⟨operand, rest⟩
      · cases enough
      · rfl

/-- A token puts one value in the place of its operands. -/
theorem length_of_step (enough : token.operands ≤ stack.length)
    (stepped : step context stack token = .ok next) :
    next.length = stack.length - token.operands + 1 := by
  have replaced {result : Except CalculationError Decimal} {rest : List Decimal}
      (mapped : result.map (· :: rest) = .ok next) : next.length = rest.length + 1 := by
    cases result with
    | error cause => cases mapped
    | ok value =>
        cases mapped
        rfl
  cases token with
  | number value =>
      cases stepped
      rfl
  | operator operator =>
      rcases stack with _ | ⟨right, _ | ⟨left, rest⟩⟩
      · cases enough
      · simp [Token.operands] at enough
      · exact replaced stepped
  | mark mark =>
      rcases stack with _ | ⟨operand, rest⟩
      · cases enough
      · exact replaced stepped
  | function function =>
      rcases stack with _ | ⟨operand, rest⟩
      · cases enough
      · exact replaced stepped
  | openParen | closeParen | unknown _ =>
      rcases stack with _ | ⟨operand, rest⟩ <;> cases stepped

/-! ## A zero that is taken -/

/-- Whether a run over some number of values comes to an operator that finds no left operand. -/
inductive TakesZero : Nat → List Token → Prop
  | above {height : Nat} {token : Token} {tokens : List Token} (enough : token.operands ≤ height)
      (behind : TakesZero (height - token.operands + 1) tokens) :
      TakesZero height (token :: tokens)
  | missing (operator : Operator) (tokens : List Token) : TakesZero 1 (.operator operator :: tokens)

theorem TakesZero.append (takes : TakesZero height tokens) (more : List Token) :
    TakesZero height (tokens ++ more) := by
  induction takes with
  | above enough behind ih => exact .above enough ih
  | missing operator tokens => exact .missing operator (tokens ++ more)

/-- A zero at the bottom is the one that an operator takes anyway. -/
theorem TakesZero.runFrom_append_zero (takes : TakesZero height tokens)
    (length : stack.length = height) :
    runFrom context (stack ++ [Decimal.zero]) tokens = runFrom context stack tokens := by
  induction takes generalizing stack with
  | above enough behind ih =>
      rw [← length] at enough ih
      rw [runFrom_cons, runFrom_cons, step_append enough]
      cases stepped : step context stack _ with
      | error cause => rfl
      | ok next => exact ih (length_of_step enough stepped)
  | missing operator tokens =>
      rcases List.length_eq_one_iff.1 length with ⟨value, rfl⟩
      rfl

theorem TakesZero.run_eq (takes : TakesZero 0 tokens) :
    run context (.number Decimal.zero :: tokens) = run context tokens := by
  have same : runFrom context ([] ++ [Decimal.zero]) tokens = runFrom context [] tokens :=
    takes.runFrom_append_zero rfl
  rw [run, run, ← same]
  rfl

/-! ## A number that is subtracted from zero -/

/-- Whether a run makes opposite values of opposite ones at the bottom, where some number of values
stands above: at the bottom it multiplies and divides only, and all values above are used up. -/
inductive KeepsOpposites : Nat → List Token → Prop
  | nil : KeepsOpposites 0 []
  | above {height : Nat} {token : Token} {tokens : List Token} (enough : token.operands ≤ height)
      (behind : KeepsOpposites (height - token.operands + 1) tokens) :
      KeepsOpposites height (token :: tokens)
  | operator {operator : Operator} {tokens : List Token} (scaling : operator.IsScaling)
      (behind : KeepsOpposites 0 tokens) : KeepsOpposites 1 (.operator operator :: tokens)
  | percent {tokens : List Token} (behind : KeepsOpposites 0 tokens) :
      KeepsOpposites 0 (.mark .percent :: tokens)

/-- Whether no function is applied at the bottom, where some number of values stands above. -/
inductive NoFunctionBelow : Nat → List Token → Prop
  | nil (height : Nat) : NoFunctionBelow height []
  | above {height : Nat} {token : Token} {tokens : List Token} (enough : token.operands ≤ height)
      (behind : NoFunctionBelow (height - token.operands + 1) tokens) :
      NoFunctionBelow height (token :: tokens)
  | bottom {height : Nat} {token : Token} {tokens : List Token} (short : height < token.operands)
      (noFunction : ¬token.isFunction) (behind : NoFunctionBelow 0 tokens) :
      NoFunctionBelow height (token :: tokens)

/-- A stack of a value above a zero, and one of a decimal of the opposite number. -/
inductive Opposed : List Decimal → List Decimal → Prop
  | intro {value other : Decimal} (opposite : value.neg.SameNumber other) :
      Opposed [value, Decimal.zero] [other]

theorem KeepsOpposites.agree_runFrom (keeps : KeepsOpposites height front)
    (length : stack.length = height) (opposite : value.neg.SameNumber other) :
    Agree Opposed (runFrom context (stack ++ [value, Decimal.zero]) front)
      (runFrom context (stack ++ [other]) front) := by
  induction keeps generalizing stack value other with
  | nil =>
      rw [List.length_eq_zero_iff.1 length]
      exact .values ⟨opposite⟩
  | above enough behind ih =>
      rw [← length] at enough ih
      rw [runFrom_cons, runFrom_cons, step_append enough, step_append enough]
      cases stepped : step context stack _ with
      | error cause => exact .causes cause
      | ok next => exact ih (length_of_step enough stepped) opposite
  | @operator operator tokens scaling behind ih =>
      rcases List.length_eq_one_iff.1 length with ⟨right, rfl⟩
      have stepped : Agree Opposed (step context [right, value, Decimal.zero] (.operator operator))
          (step context [right, other] (.operator operator)) :=
        (scaling.agree_apply opposite right).map fun opposite => ⟨opposite⟩
      apply stepped.bind
      rintro _ _ ⟨opposite⟩
      exact @ih [] _ _ rfl opposite
  | percent behind ih =>
      rw [List.length_eq_zero_iff.1 length]
      have stepped : Agree Opposed (step context [value, Decimal.zero] (.mark .percent))
          (step context [other] (.mark .percent)) :=
        (Mark.agree_percent opposite).map fun opposite => ⟨opposite⟩
      apply stepped.bind
      rintro _ _ ⟨opposite⟩
      exact @ih [] _ _ rfl opposite

/-- Two stacks that differ at the bottom only, in the way in which a number is written there. -/
inductive SameAbove : List Decimal → List Decimal → Prop
  | intro (stack : List Decimal) {value other : Decimal} (same : value.SameNumber other) :
      SameAbove (stack ++ [value]) (stack ++ [other])

/-- Stacks of one value, which is written in two ways. -/
inductive SameValue : List Decimal → List Decimal → Prop
  | intro {value other : Decimal} (same : value.SameNumber other) : SameValue [value] [other]

/-- A token that reaches the bottom of a stack leaves one value there. -/
theorem agree_step_bottom (short : stack.length < token.operands) (noFunction : ¬token.isFunction)
    (same : value.SameNumber other) :
    Agree SameValue (step context (stack ++ [value]) token)
      (step context (stack ++ [other]) token) := by
  have alone {left right : Except CalculationError Decimal}
      (agree : Agree SameNumber left right) :
      Agree SameValue (left.map (· :: [])) (right.map (· :: [])) :=
    agree.map fun same => ⟨same⟩
  cases token with
  | number literal => cases short
  | operator operator =>
      rcases stack with _ | ⟨right, _ | ⟨next, rest⟩⟩
      · exact alone (operator.agree_apply (.refl Decimal.zero) same)
      · exact alone (operator.agree_apply same (.refl right))
      · simp only [Token.operands, List.length_cons] at short
        omega
  | mark mark =>
      have empty : stack = [] := by simpa [Token.operands] using short
      rw [empty]
      exact alone (mark.agree_apply same)
  | function function => exact absurd rfl noFunction
  | openParen | closeParen | unknown _ =>
      have empty : stack = [] := by simpa [Token.operands] using short
      rw [empty]
      exact .causes _

theorem NoFunctionBelow.agree_runFrom (noFunction : NoFunctionBelow height tokens)
    (length : stack.length = height) (same : value.SameNumber other) :
    Agree SameAbove (runFrom context (stack ++ [value]) tokens)
      (runFrom context (stack ++ [other]) tokens) := by
  induction noFunction generalizing stack value other with
  | nil height => exact .values (.intro stack same)
  | above enough behind ih =>
      rw [← length] at enough ih
      rw [runFrom_cons, runFrom_cons, step_append enough, step_append enough]
      cases stepped : step context stack _ with
      | error cause => exact .causes cause
      | ok next => exact ih (length_of_step enough stepped) same
  | bottom short noFunction behind ih =>
      rw [← length] at short
      rw [runFrom_cons, runFrom_cons]
      apply (agree_step_bottom short noFunction same).bind
      rintro _ _ ⟨same⟩
      exact @ih [] _ _ rfl same

theorem SameAbove.agree_renderBottom {otherStack : List Decimal}
    (same : SameAbove stack otherStack) :
    Agree Eq (renderBottom context stack) (renderBottom context otherStack) := by
  cases same with
  | intro stack same =>
      simp only [renderBottom, List.getLast?_concat]
      exact Decimal.agree_render same

/-- Subtracting a number from a zero at the bottom leaves its opposite there. -/
theorem run_zero_minus (context : Context) (value : Decimal) (tokens : List Token) :
    run context (.number Decimal.zero :: .number value :: .operator .minus :: tokens) =
      run context (.number value.neg :: tokens) :=
  rfl

/-- If a number is only multiplied and divided before it is subtracted from a zero at the bottom,
the run agrees with one on the opposite number. -/
theorem KeepsOpposites.agree_run (keeps : KeepsOpposites 0 front)
    (noFunction : NoFunctionBelow 0 back) (context : Context) (value : Decimal) :
    Agree Eq
      (run context
        (.number Decimal.zero :: .number value :: (front ++ .operator .minus :: back)))
      (run context (.number value.neg :: (front ++ back))) := by
  have difference : Agree SameAbove
      (runFrom context [value, Decimal.zero] (front ++ .operator .minus :: back))
      (runFrom context [value.neg] (front ++ back)) := by
    rw [runFrom_append, runFrom_append]
    apply (@agree_runFrom context 0 front [] value value.neg keeps rfl (.refl _)).bind
    rintro _ _ ⟨opposite⟩
    exact @NoFunctionBelow.agree_runFrom context 0 back [] _ _ noFunction rfl opposite
  exact difference.bind SameAbove.agree_renderBottom

end ReversePolish

end DecimalCalculator
