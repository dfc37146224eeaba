import DecimalCalculator.Proofs.Failure

/-!
# Expressions and their values

The syntax tree of an expression, the order in which its parts are computed, and its value as
a recursion over the tree. The value asks for the left operand first, so of two operands that
both fail the left one gives the cause.

A tree keeps the parentheses that were written as groups. They have no part in the value, nor
in the order: the post-order of a tree leaves them out. The main statement is that running the
post-order of a tree on a stack of values pushes the value of the tree and leaves the rest of
the stack as it was. Every operator then finds both of its operands, and the zero that stands
in for a missing one is never taken.
-/

namespace DecimalCalculator

/-- The syntax trees of arithmetic. A group is a pair of parentheses around an expression. -/
inductive Expression
  | literal (value : Decimal)
  | binary (operator : Operator) (left right : Expression)
  | marked (operand : Expression) (mark : Mark)
  | call (function : UnaryFunction) (argument : Expression)
  | group (body : Expression)
  deriving DecidableEq, Repr

namespace Expression

/-- The tokens of a tree, operands first, without parentheses. -/
def postOrder : Expression → List Token
  | literal value => [.number value]
  | binary operator left right => left.postOrder ++ right.postOrder ++ [.operator operator]
  | marked operand mark => operand.postOrder ++ [.mark mark]
  | call function argument => argument.postOrder ++ [.function function]
  | group body => body.postOrder

def literals : Expression → List Decimal
  | literal value => [value]
  | binary _ left right => left.literals ++ right.literals
  | marked operand _ => operand.literals
  | call _ argument => argument.literals
  | group body => body.literals

/-- The value of a tree, or why it has none. -/
def value (context : Context) : Expression → Except CalculationError Decimal
  | literal value => .ok value
  | binary operator left right => do
    let leftValue ← left.value context
    let rightValue ← right.value context
    operator.apply context leftValue rightValue
  | marked operand mark => do
    let operandValue ← operand.value context
    mark.apply context operandValue
  | call function argument => do
    let argumentValue ← argument.value context
    function.apply argumentValue
  | group body => body.value context

theorem value_cause {context : Context} {expression : Expression} {cause : CalculationError}
    (failed : expression.value context = .error cause) : ¬cause.ConcernsTokens := by
  induction expression generalizing cause with
  | literal value => cases failed
  | binary operator left right ihLeft ihRight =>
      rcases bind_eq_error.1 failed with leftFailed | ⟨leftValue, -, failed⟩
      · exact ihLeft leftFailed
      rcases bind_eq_error.1 failed with rightFailed | ⟨rightValue, -, failed⟩
      · exact ihRight rightFailed
      · exact Operator.apply_cause failed
  | marked operand mark ih =>
      rcases bind_eq_error.1 failed with operandFailed | ⟨operandValue, -, failed⟩
      · exact ih operandFailed
      · exact Mark.apply_cause failed
  | call function argument ih =>
      rcases bind_eq_error.1 failed with argumentFailed | ⟨argumentValue, -, failed⟩
      · exact ih argumentFailed
      · exact UnaryFunction.apply_cause failed
  | group body ih => exact ih failed

/-! ## Running the post-order -/

open ReversePolish

theorem runFrom_singleton (context : Context) (stack : List Decimal) (token : Token) :
    runFrom context stack [token] = step context stack token := by
  simp only [runFrom, List.foldlM_cons, List.foldlM_nil, bind_pure]

/-- The post-order of a tree pushes the value of the tree, on any stack. -/
theorem runFrom_postOrder (context : Context) (stack : List Decimal) (expression : Expression) :
    runFrom context stack expression.postOrder = (expression.value context).map (· :: stack) := by
  induction expression generalizing stack with
  | literal value => rfl
  | binary operator left right ihLeft ihRight =>
      rw [postOrder, runFrom_append, runFrom_append, ihLeft, value]
      cases left.value context with
      | error cause => rfl
      | ok leftValue =>
          simp only [Except.map, Except.bind]
          rw [ihRight]
          cases right.value context with
          | error cause => rfl
          | ok rightValue => exact runFrom_singleton context _ (.operator operator)
  | marked operand mark ih =>
      rw [postOrder, runFrom_append, ih, value]
      cases operand.value context with
      | error cause => rfl
      | ok operandValue => exact runFrom_singleton context _ (.mark mark)
  | call function argument ih =>
      rw [postOrder, runFrom_append, ih, value]
      cases argument.value context with
      | error cause => rfl
      | ok argumentValue => exact runFrom_singleton context _ (.function function)
  | group body ih => exact ih stack

theorem run_postOrder (context : Context) (expression : Expression) :
    run context expression.postOrder =
      (expression.value context).bind fun value => value.render context := by
  rw [run, runFrom_postOrder]
  cases expression.value context <;> rfl

end Expression

end DecimalCalculator
