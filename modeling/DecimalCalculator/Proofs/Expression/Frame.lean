import DecimalCalculator.Proofs.Expression.Basic
import DecimalCalculator.Proofs.ReversePolish.Bottom

/-!
# Post-orders on a stack

The post-order of an expression can be run on any stack. It leaves the stack as it was, with the value
of the expression on top. If there is no value it fails, with the cause of the first part of the
expression that has none, parts being taken in post-order as well. While it runs, every token finds
its operands above the stack: no token looks further down, and no operator takes the zero that stands
in for a missing operand.

Post-orders that are run one behind the other leave their values one above the other. The answer is
the value at the bottom, so it is the value of the first expression. The other expressions have no
part in the answer but must have values, for the first one that has none makes the run fail.
-/

namespace DecimalCalculator

variable {context : Context}

namespace ReversePolish

variable {height : Nat} {token : Token} {tokens front back : List Token}
variable {stack below reached : List Decimal}

/-! ## Operands -/

/-- Whether every token finds its operands when tokens are run over some number of values. -/
inductive Supplied : Nat → List Token → Prop
  | nil (height : Nat) : Supplied height []
  | above {height : Nat} {token : Token} {tokens : List Token} (enough : token.operands ≤ height)
      (behind : Supplied (height - token.operands + 1) tokens) : Supplied height (token :: tokens)

/-- A run of supplied tokens does not touch what is below the values that they are run over, and
comes to each token with its operands above that. -/
theorem Supplied.exists_operands (supplied : Supplied height (front ++ token :: back))
    (length : stack.length = height)
    (ran : runFrom context (stack ++ below) front = .ok reached) :
    ∃ operands, reached = operands ++ below ∧ token.operands ≤ operands.length := by
  -- The stack varies: a step over enough operands is the same step with more values below them.
  induction front generalizing height stack with
  | nil =>
      cases supplied with
      | above enough behind =>
          cases ran
          rw [← length] at enough
          exact ⟨stack, rfl, enough⟩
  | cons first front ih =>
      cases supplied with
      | above enough behind =>
          rw [← length] at enough behind
          rw [runFrom_cons, step_append enough] at ran
          rcases bind_eq_ok.1 ran with ⟨middle, mapped, ran⟩
          rcases map_eq_ok.1 mapped with ⟨next, stepped, rfl⟩
          exact ih behind (length_of_step enough stepped) ran

end ReversePolish

namespace Expression

open ReversePolish

variable {expression first : Expression} {rest : List Expression}

/-- A property of the tokens that are run over some number of values goes over from the tokens behind
an expression, where there is one value more, to all of them, if it goes over to any token in front
that finds its operands. -/
theorem postOrder_induction {holds : Nat → List Token → Prop}
    (above : ∀ {height : Nat} {token : Token} {tokens : List Token}, token.operands ≤ height →
      holds (height - token.operands + 1) tokens → holds height (token :: tokens))
    (expression : Expression) {height : Nat} {behind : List Token}
    (rest : holds (height + 1) behind) : holds height (expression.postOrder ++ behind) := by
  induction expression generalizing height behind with
  | literal value => exact above (Nat.zero_le height) rest
  | binary operator left right ihLeft ihRight =>
      rw [postOrder, List.append_assoc, List.append_assoc]
      exact ihLeft (ihRight (above (by simp [Token.operands]) rest))
  | marked operand mark ih =>
      rw [postOrder, List.append_assoc]
      exact ih (above (by simp [Token.operands]) rest)
  | call function argument ih =>
      rw [postOrder, List.append_assoc]
      exact ih (above (by simp [Token.operands]) rest)
  | group body ih => exact ih rest

theorem supplied_postOrder (expression : Expression) (height : Nat) :
    Supplied height expression.postOrder := by
  have supplied := postOrder_induction Supplied.above expression (.nil (height + 1))
  rw [List.append_nil] at supplied
  exact supplied

/-! ## Parts -/

/-- The parts of a tree in post-order, the tree itself last. A group is no part beside its body. -/
def parts : Expression → List Expression
  | literal value => [literal value]
  | binary operator left right => left.parts ++ right.parts ++ [binary operator left right]
  | marked operand mark => operand.parts ++ [marked operand mark]
  | call function argument => argument.parts ++ [call function argument]
  | group body => body.parts

/-- The token that makes the value of a tree from those of its parts. -/
def root : Expression → Token
  | literal value => .number value
  | binary operator _ _ => .operator operator
  | marked _ mark => .mark mark
  | call function _ => .function function
  | group body => body.root

theorem postOrder_eq_map_parts (expression : Expression) :
    expression.postOrder = expression.parts.map root := by
  induction expression with
  | literal value => rfl
  | binary operator left right ihLeft ihRight => simp [postOrder, parts, root, ihLeft, ihRight]
  | marked operand mark ih => simp [postOrder, parts, root, ih]
  | call function argument ih => simp [postOrder, parts, root, ih]
  | group body ih => exact ih

/-- All parts of a tree with a value have values. -/
theorem exists_value_of_mem_parts {value : Decimal}
    (valued : expression.value context = .ok value) :
    ∀ part ∈ expression.parts, ∃ partValue, part.value context = .ok partValue := by
  intro part member
  induction expression generalizing value with
  | literal literal =>
      rw [parts, List.mem_singleton] at member
      subst member
      exact ⟨value, valued⟩
  | binary operator left right ihLeft ihRight =>
      rcases bind_eq_ok.1 valued with ⟨leftValue, leftValued, fromLeft⟩
      rcases bind_eq_ok.1 fromLeft with ⟨rightValue, rightValued, -⟩
      simp only [parts, List.mem_append, List.mem_singleton] at member
      rcases member with (inLeft | inRight) | rfl
      · exact ihLeft leftValued inLeft
      · exact ihRight rightValued inRight
      · exact ⟨value, valued⟩
  | marked operand mark ih =>
      rcases bind_eq_ok.1 valued with ⟨operandValue, operandValued, -⟩
      simp only [parts, List.mem_append, List.mem_singleton] at member
      rcases member with inOperand | rfl
      · exact ih operandValued inOperand
      · exact ⟨value, valued⟩
  | call function argument ih =>
      rcases bind_eq_ok.1 valued with ⟨argumentValue, argumentValued, -⟩
      simp only [parts, List.mem_append, List.mem_singleton] at member
      rcases member with inArgument | rfl
      · exact ih argumentValued inArgument
      · exact ⟨value, valued⟩
  | group body ih => exact ih valued member

/-- A tree without a value fails as its first part without a value does. -/
theorem failsFirst_parts {cause : CalculationError}
    (failed : expression.value context = .error cause) :
    FailsFirst (value context) expression.parts cause := by
  induction expression with
  | literal literal => cases failed
  | binary operator left right ihLeft ihRight =>
      rw [parts]
      rcases bind_eq_error.1 failed with leftFailed | ⟨leftValue, leftValued, fromLeft⟩
      · exact ((ihLeft leftFailed).append _).append _
      have inLeft := exists_value_of_mem_parts leftValued
      rcases bind_eq_error.1 fromLeft with rightFailed | ⟨rightValue, rightValued, -⟩
      · exact ((ihRight rightFailed).behind inLeft).append _
      have inRight := exists_value_of_mem_parts rightValued
      rw [List.append_assoc]
      exact ((FailsFirst.single failed).behind inRight).behind inLeft
  | marked operand mark ih =>
      rw [parts]
      rcases bind_eq_error.1 failed with operandFailed | ⟨operandValue, operandValued, -⟩
      · exact (ih operandFailed).append _
      · exact (FailsFirst.single failed).behind (exists_value_of_mem_parts operandValued)
  | call function argument ih =>
      rw [parts]
      rcases bind_eq_error.1 failed with argumentFailed | ⟨argumentValue, argumentValued, -⟩
      · exact (ih argumentFailed).append _
      · exact (FailsFirst.single failed).behind (exists_value_of_mem_parts argumentValued)
  | group body ih => exact ih failed

theorem value_eq_error_iff {cause : CalculationError} :
    expression.value context = .error cause ↔
      FailsFirst (value context) expression.parts cause := by
  constructor
  · exact failsFirst_parts
  · intro fails
    cases valued : expression.value context with
    | error other => rw [(failsFirst_parts valued).unique fails]
    | ok value =>
        rcases fails with ⟨front, failing, back, split, -, failed⟩
        have member : failing ∈ expression.parts := by simp [split]
        rcases exists_value_of_mem_parts valued failing member with ⟨partValue, partValued⟩
        rw [failed] at partValued
        cases partValued

/-! ## Expressions side by side -/

/-- The post-orders of expressions push their values one after the other. -/
theorem runFrom_flatMap_postOrder (expressions : List Expression) (stack : List Decimal) :
    runFrom context stack (expressions.flatMap postOrder) =
      (expressions.mapM (value context)).map (·.reverse ++ stack) := by
  induction expressions generalizing stack with
  | nil => rfl
  | cons first rest ih =>
      rw [List.flatMap_cons, runFrom_append, runFrom_postOrder, List.mapM_cons]
      cases first.value context with
      | error cause => rfl
      | ok value =>
          simp only [Except.map, Except.bind]
          rw [ih]
          cases rest.mapM (Expression.value context) with
          | error cause => rfl
          | ok values => simp [Except.map, bind, Except.bind, pure, Except.pure]

theorem run_flatMap_postOrder_of_values {base : Decimal} (valued : first.value context = .ok base)
    (restValued : ∀ expression ∈ rest, ∃ value, expression.value context = .ok value) :
    run context ((first :: rest).flatMap postOrder) = base.render context := by
  rcases exists_mapM_of_forall restValued with ⟨values, computed⟩
  have ran : runFrom context [] ((first :: rest).flatMap postOrder) =
      .ok (values.reverse ++ [base]) := by
    rw [List.flatMap_cons, runFrom_append, runFrom_postOrder, valued]
    simp only [Except.map, Except.bind]
    rw [runFrom_flatMap_postOrder, computed]
    rfl
  rw [run, ran]
  simp [Except.bind, renderBottom]

theorem run_flatMap_postOrder_of_failsFirst {expressions : List Expression}
    {cause : CalculationError} (fails : FailsFirst (value context) expressions cause) :
    run context (expressions.flatMap postOrder) = .error cause := by
  rw [run, runFrom_flatMap_postOrder, fails.mapM_eq]
  rfl

/-- The post-order of an expression pushes the value of the expression on any stack, or fails as the
first part of the expression that has no value, parts being in post-order too. At every token the
stack is as it was at the beginning, with the operands of the token above it, so no operator takes
zero for a missing operand. Several post-orders side by side are answered by the value of the first
expression, if all have values, and fail as the first expression that has none. -/
theorem runFrom_postOrder_frame (context : Context) :
    (∀ (expression : Expression) (stack : List Decimal),
        runFrom context stack expression.postOrder =
            (expression.value context).map (· :: stack) ∧
          expression.postOrder = expression.parts.map root ∧
          (∀ cause, expression.value context = .error cause ↔
            FailsFirst (value context) expression.parts cause) ∧
          ∀ front token back reached, expression.postOrder = front ++ token :: back →
            runFrom context stack front = .ok reached →
            ∃ operands, reached = operands ++ stack ∧ token.operands ≤ operands.length) ∧
      ∀ (first : Expression) (rest : List Expression),
        (∀ base, first.value context = .ok base →
            (∀ expression ∈ rest, ∃ value, expression.value context = .ok value) →
            run context ((first :: rest).flatMap postOrder) = base.render context) ∧
          ∀ cause, FailsFirst (value context) (first :: rest) cause →
            run context ((first :: rest).flatMap postOrder) = .error cause := by
  constructor
  · intro expression stack
    refine ⟨runFrom_postOrder context stack expression, postOrder_eq_map_parts expression,
      fun _ => value_eq_error_iff, ?_⟩
    intro front token back reached split ran
    have supplied := supplied_postOrder expression 0
    rw [split] at supplied
    have above : runFrom context ([] ++ stack) front = .ok reached := ran
    exact supplied.exists_operands rfl above
  · intro first rest
    constructor
    · intro base valued restValued
      exact run_flatMap_postOrder_of_values valued restValued
    · intro cause fails
      exact run_flatMap_postOrder_of_failsFirst fails

/-- The difference of eight and the factorial of three is computed above a five. A two in front of a
three is the answer, and a quotient by zero behind them makes the run fail. -/
theorem runFrom_postOrder_frame_difference :
    runFrom Context.default [⟨5, 0⟩] [.number ⟨8, 0⟩, .number ⟨3, 0⟩, .mark .factorial] =
        .ok [⟨6, 0⟩, ⟨8, 0⟩, ⟨5, 0⟩] ∧
      (∃ operands : List Decimal,
        [⟨6, 0⟩, ⟨8, 0⟩, ⟨5, 0⟩] = operands ++ [⟨5, 0⟩] ∧ 2 ≤ operands.length) ∧
      run Context.default
          ([literal ⟨2, 0⟩, group (literal ⟨3, 0⟩)].flatMap postOrder) = .ok "2" ∧
      run Context.default
          ([literal ⟨2, 0⟩, binary .slash (literal ⟨1, 0⟩) (literal ⟨0, 0⟩),
            marked (literal ⟨-1, 0⟩) .factorial].flatMap postOrder) = .error .divisionByZero := by
  have ran : runFrom Context.default [⟨5, 0⟩] [.number ⟨8, 0⟩, .number ⟨3, 0⟩, .mark .factorial] =
      .ok [⟨6, 0⟩, ⟨8, 0⟩, ⟨5, 0⟩] := rfl
  have fails : FailsFirst (value Context.default)
      [literal ⟨2, 0⟩, binary .slash (literal ⟨1, 0⟩) (literal ⟨0, 0⟩),
        marked (literal ⟨-1, 0⟩) .factorial] .divisionByZero :=
    ⟨[literal ⟨2, 0⟩], _, _, rfl, by simp [value], rfl⟩
  refine ⟨ran, ?_, ?_, ?_⟩
  · exact ((runFrom_postOrder_frame Context.default).1 (binary .minus (literal ⟨8, 0⟩)
      (marked (literal ⟨3, 0⟩) .factorial)) [⟨5, 0⟩]).2.2.2 _ (.operator .minus) [] _ rfl ran
  · have answered := ((runFrom_postOrder_frame Context.default).2 (literal ⟨2, 0⟩)
      [group (literal ⟨3, 0⟩)]).1 ⟨2, 0⟩ rfl (by simp [value])
    exact answered.trans rfl
  · exact ((runFrom_postOrder_frame Context.default).2 _ _).2 _ fails

end Expression

end DecimalCalculator
