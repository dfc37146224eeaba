import DecimalCalculator.Proofs.Evaluation.Refusal

/-!
# What the precision decides

Only quotients, percentages and powers are rounded to the precision of a context. Where none of
them is asked for, contexts that differ in their precision alone give one evaluation: the same
result with the same derivation, or the same cause of failure. So no sum, product, factorial or
value of a function is ever rounded to the context.

The precision is handed down to every operation, and a run may fail in between. Therefore not the
values are compared but whole steps: for each token that is not rounded, the two contexts do the
same to every stack. Bringing the tokens into order adds no token to them.
-/

namespace DecimalCalculator

/-- Whether two contexts differ in their precision at most. -/
structure Context.SameLimits (first second : Context) : Prop where
  factorialLimit : first.factorialLimit = second.factorialLimit
  displayLimit : first.displayLimit = second.displayLimit

variable {first second : Context}

/-! ## Operations -/

namespace Decimal

theorem render_of_sameLimits (same : first.SameLimits second) (value : Decimal) :
    value.render first = value.render second := by
  simp only [render, same.displayLimit]

theorem factorial_of_sameLimits (same : first.SameLimits second) (value : Decimal) :
    value.factorial first = value.factorial second := by
  simp only [factorial, same.factorialLimit]

end Decimal

namespace Token

/-- Whether the value of a token is rounded to the precision. -/
def isRounded : Token → Bool
  | operator .slash | operator .caret | mark .percent => true
  | _ => false

theorem render_of_sameLimits (same : first.SameLimits second) :
    render first = render second := by
  funext token
  cases token with
  | number value => exact value.render_of_sameLimits same
  | _ => rfl

theorem renderAll_of_sameLimits (same : first.SameLimits second) (tokens : List Token) :
    renderAll first tokens = renderAll second tokens := by
  rw [renderAll, renderAll, render_of_sameLimits same]

end Token

theorem Operator.apply_of_not_isRounded {operator : Operator}
    (unrounded : (Token.operator operator).isRounded = false) (left right : Decimal) :
    operator.apply first left right = operator.apply second left right := by
  cases operator with
  | plus | minus | star | cross => rfl
  | slash | caret => cases unrounded

theorem Mark.apply_of_not_isRounded (same : first.SameLimits second) {mark : Mark}
    (unrounded : (Token.mark mark).isRounded = false) (operand : Decimal) :
    mark.apply first operand = mark.apply second operand := by
  cases mark with
  | factorial => exact operand.factorial_of_sameLimits same
  | percent => cases unrounded

/-! ## Runs -/

namespace ReversePolish

theorem step_of_not_isRounded (same : first.SameLimits second) {token : Token}
    (unrounded : token.isRounded = false) (stack : List Decimal) :
    step first stack token = step second stack token := by
  cases stack with
  | nil => cases token <;> rfl
  | cons operand rest =>
      cases token with
      | operator operator =>
          have value := @Operator.apply_of_not_isRounded first second operator unrounded
          simp only [step, value]
      | mark mark =>
          have value := Mark.apply_of_not_isRounded same unrounded
          simp only [step, value]
      | _ => rfl

theorem runFrom_of_not_isRounded (same : first.SameLimits second) {tokens : List Token}
    (unrounded : ∀ token ∈ tokens, token.isRounded = false) (stack : List Decimal) :
    runFrom first stack tokens = runFrom second stack tokens := by
  induction tokens generalizing stack with
  | nil => rfl
  | cons token tokens ih =>
      rw [List.forall_mem_cons] at unrounded
      rw [runFrom_cons, runFrom_cons, step_of_not_isRounded same unrounded.1,
        funext (ih unrounded.2)]

theorem run_of_not_isRounded (same : first.SameLimits second) {tokens : List Token}
    (unrounded : ∀ token ∈ tokens, token.isRounded = false) :
    run first tokens = run second tokens := by
  have bottom : renderBottom first = renderBottom second := by
    funext stack
    simp only [renderBottom, Decimal.render_of_sameLimits same]
  rw [run, run, runFrom_of_not_isRounded same unrounded, bottom]

end ReversePolish

/-! ## Evaluation -/

theorem Derivation.ofTokens_of_sameLimits (same : first.SameLimits second) (tokens : List Token) :
    Derivation.ofTokens first tokens = Derivation.ofTokens second tokens := by
  simp only [Derivation.ofTokens, Token.renderAll_of_sameLimits same]

theorem Evaluation.ofTokens_of_not_isRounded (same : first.SameLimits second)
    {tokens : List Token} (unrounded : ∀ token ∈ tokens, token.isRounded = false) :
    Evaluation.ofTokens first tokens = Evaluation.ofTokens second tokens := by
  have inOrder : ∀ token ∈ ReversePolish.ofTokens tokens, token.isRounded = false := by
    intro token member
    exact unrounded token (ReversePolish.mem_of_mem_ofTokens member).1
  rw [Evaluation.ofTokens, Evaluation.ofTokens, Derivation.ofTokens_of_sameLimits same,
    ReversePolish.run_of_not_isRounded same inOrder]

/-- A text without a quotient, a percentage and a power is evaluated alike, or fails alike, under
any two precisions. -/
theorem evaluate_of_not_isRounded (same : first.SameLimits second) {text : String}
    (unrounded : ∀ token ∈ Token.scan text, token.isRounded = false) :
    evaluate first text = evaluate second text := by
  have kept : ∀ token ∈ expressionTokens text, token.isRounded = false := by
    intro token member
    exact unrounded token ((dropPendingOperator_sublist _).subset member)
  rw [evaluate, evaluate, Evaluation.ofTokens_of_not_isRounded same kept]

/-- Not even the digits of a root are cut where no digit at all is kept of a quotient. -/
theorem evaluate_of_not_isRounded_root :
    (∀ token ∈ Token.scan "sqrt(2)x3!-0.125+", token.isRounded = false) ∧
      evaluate ⟨0, 3000, 10000⟩ "sqrt(2)x3!-0.125+" =
        evaluate ⟨200, 3000, 10000⟩ "sqrt(2)x3!-0.125+" := by
  have unrounded : ∀ token ∈ Token.scan "sqrt(2)x3!-0.125+", token.isRounded = false := by decide
  have same : Context.SameLimits ⟨0, 3000, 10000⟩ ⟨200, 3000, 10000⟩ := ⟨rfl, rfl⟩
  exact ⟨unrounded, evaluate_of_not_isRounded same unrounded⟩

end DecimalCalculator
