import DecimalCalculator.Proofs.Decimal.Uniqueness
import DecimalCalculator.Proofs.Evaluation.Literal
import DecimalCalculator.Proofs.Evaluation.Meaning
import DecimalCalculator.Proofs.Expression.Text

/-!
# Sums, differences and products are exact

An expression that is made of literals with plus, minus and times has a number of its own, found
by computing with the numbers of its literals. Evaluating a text of such an expression either
fails because a bound is exceeded, or shows that number: nothing is rounded on the way, whatever
the size of the expression and of its literals.

Two bounds can be exceeded, that on the distance of the scales in a sum and that on the length of
a text. The precision of the context is neither of them, and no operation of these expressions
looks at it.
-/

namespace DecimalCalculator

/-- The expressions of literals, sums, differences and products, with their numbers. -/
inductive Expression.Exact : Expression → ℚ → Prop
  | literal (value : Decimal) : Exact (literal value) value.toRat
  | sum {left right : Expression} {augend addend : ℚ} (leftExact : Exact left augend)
      (rightExact : Exact right addend) : Exact (binary .plus left right) (augend + addend)
  | difference {left right : Expression} {minuend subtrahend : ℚ}
      (leftExact : Exact left minuend) (rightExact : Exact right subtrahend) :
      Exact (binary .minus left right) (minuend - subtrahend)
  | product {operator : Operator} {left right : Expression} {multiplier multiplicand : ℚ}
      (times : operator = .cross ∨ operator = .star) (leftExact : Exact left multiplier)
      (rightExact : Exact right multiplicand) :
      Exact (binary operator left right) (multiplier * multiplicand)
  | group {body : Expression} {number : ℚ} (exact : Exact body number) :
      Exact (group body) number

/-- The results of an exact calculation: a decimal of the number, or an excess. -/
inductive ExactResult (number : ℚ) : Except CalculationError Decimal → Prop
  | value {value : Decimal} (same : value.toRat = number) : ExactResult number (.ok value)
  | excess (bound : Excess) : ExactResult number (.error (.excess bound))

/-! ## Operations -/

theorem exactResult_add (left right : Decimal) :
    ExactResult (left.toRat + right.toRat) (left.add right) := by
  cases added : left.add right with
  | ok total => exact .value (Decimal.toRat_add added)
  | error cause =>
      rw [Decimal.add_cause added]
      exact .excess .scaleGap

theorem exactResult_sub (left right : Decimal) :
    ExactResult (left.toRat - right.toRat) (left.sub right) := by
  rw [sub_eq_add_neg, ← Decimal.toRat_neg]
  exact exactResult_add left right.neg

theorem exactResult_times (context : Context) {operator : Operator}
    (times : operator = .cross ∨ operator = .star) (left right : Decimal) :
    ExactResult (left.toRat * right.toRat) (operator.apply context left right) := by
  rcases times with rfl | rfl <;> exact .value (Decimal.toRat_mul left right)

/-- The results of two operands put together. -/
theorem ExactResult.binary {number leftNumber rightNumber : ℚ}
    {left right : Except CalculationError Decimal}
    {operation : Decimal → Decimal → Except CalculationError Decimal}
    (leftExact : ExactResult leftNumber left) (rightExact : ExactResult rightNumber right)
    (exact : ∀ leftValue rightValue : Decimal, leftValue.toRat = leftNumber →
      rightValue.toRat = rightNumber → ExactResult number (operation leftValue rightValue)) :
    ExactResult number
      (left.bind fun leftValue => right.bind fun rightValue => operation leftValue rightValue) := by
  cases leftExact with
  | excess bound => exact .excess bound
  | value leftSame =>
      cases rightExact with
      | excess bound => exact .excess bound
      | value rightSame => exact exact _ _ leftSame rightSame

namespace Expression.Exact

variable {expression : Expression} {number : ℚ} {context : Context}

/-! ## Values -/

theorem exactResult_value (exact : expression.Exact number) (context : Context) :
    ExactResult number (expression.value context) := by
  induction exact with
  | literal value => exact .value rfl
  | sum leftExact rightExact ihLeft ihRight =>
      apply ihLeft.binary ihRight
      rintro leftValue rightValue rfl rfl
      exact exactResult_add leftValue rightValue
  | difference leftExact rightExact ihLeft ihRight =>
      apply ihLeft.binary ihRight
      rintro leftValue rightValue rfl rfl
      exact exactResult_sub leftValue rightValue
  | product times leftExact rightExact ihLeft ihRight =>
      apply ihLeft.binary ihRight
      rintro leftValue rightValue rfl rfl
      exact exactResult_times context times leftValue rightValue
  | group exact ih => exact ih

/-- The value of an exact expression is the same in all contexts. -/
theorem value_eq (exact : expression.Exact number) (context other : Context) :
    expression.value context = expression.value other := by
  induction exact with
  | literal value => rfl
  | sum leftExact rightExact ihLeft ihRight
  | difference leftExact rightExact ihLeft ihRight =>
      rw [value, value, ihLeft, ihRight]
      rfl
  | product times leftExact rightExact ihLeft ihRight =>
      rw [value, value, ihLeft, ihRight]
      rcases times with rfl | rfl <;> rfl
  | group exact ih => exact ih

/-- The evaluation of the tokens of an exact expression shows its number, or exceeds a bound. -/
theorem ofTokens_cases (exact : expression.Exact number) (context : Context) {level : Level}
    {tokens : List Token} (written : expression.Written level tokens) :
    (∃ bound, Evaluation.ofTokens context tokens = .error (.excess bound)) ∨
      ∃ evaluation, Evaluation.ofTokens context tokens = .ok evaluation ∧
        IsPlainTextOf evaluation.result number := by
  by_cases shown : ∀ literal ∈ expression.literals, literal.Shown context
  · rw [ofTokens_of_shown written shown]
    have computed := exact.exactResult_value context
    generalize expression.value context = result at computed ⊢
    cases computed with
    | excess bound => exact .inl ⟨bound, rfl⟩
    | @value value same =>
        simp only [Except.bind]
        cases rendered : value.render context with
        | error cause =>
            rw [Decimal.render_cause rendered]
            exact .inl ⟨.textLength, rfl⟩
        | ok text =>
            rw [← same]
            exact .inr ⟨_, rfl, Decimal.isPlainTextOf_render rendered⟩
  · push Not at shown
    rcases shown with ⟨literal, member, notShown⟩
    exact .inl ⟨.textLength, ofTokens_of_not_shown written member notShown⟩

theorem ofTokens_precision (exact : expression.Exact number) (context : Context)
    (precision : ℕ) {level : Level} {tokens : List Token}
    (written : expression.Written level tokens) :
    Evaluation.ofTokens { context with precision := precision } tokens =
      Evaluation.ofTokens context tokens := by
  -- The display does not look at the precision, so both contexts show the same literals.
  by_cases shown : ∀ literal ∈ expression.literals, literal.Shown context
  · have alsoShown : ∀ literal ∈ expression.literals,
        literal.Shown { context with precision := precision } := shown
    rw [ofTokens_of_shown written shown, ofTokens_of_shown written alsoShown,
      exact.value_eq _ context]
    rfl
  · push Not at shown
    rcases shown with ⟨literal, member, notShown⟩
    have alsoNotShown : ¬literal.Shown { context with precision := precision } := notShown
    rw [ofTokens_of_not_shown written member notShown,
      ofTokens_of_not_shown written member alsoNotShown]

end Expression.Exact

/-! ## Texts -/

theorem Token.Spelled.unknown_not_mem {tokens : List Token} {lexemes : List Lexeme}
    (spelled : Spelled tokens lexemes) (name : String) : .unknown name ∉ tokens := by
  induction spelled with
  | nil => simp
  | single spells spelled ih => cases spells <;> simpa using ih
  | signed numeral spelled ih => simpa using ih

/-- A text of an expression is a literal only if it is a numeral behind at most one sign. -/
theorem Expression.WrittenIn.parse?_eq_none {expression : Expression} {level : Level}
    {text : String} (written : expression.WrittenIn level text)
    (notNumeral : ∀ value, ¬SignedNumeral text.toList value) : Decimal.parse? text = none := by
  cases read : Decimal.parse? text with
  | none => rfl
  | some value =>
      rcases written with ⟨tokens, lexemes, writtenTokens, spelled, laidOut⟩
      rcases scan_of_literal read with ⟨signed, -⟩ | ⟨name, member⟩
      · exact absurd signed (notNumeral value)
      · rw [Token.scan_laidOut writtenTokens.isChain_openParen spelled laidOut] at member
        exact absurd member (spelled.unknown_not_mem name)

/-- The evaluation of a text of an exact expression that is no numeral by itself. It exceeds a
bound, or its result is the one plain text of the number of the expression. The precision of the
context makes no difference to it. -/
theorem evaluate_exact (context : Context) {expression : Expression} {number : ℚ} {level : Level}
    {text : String} (exact : expression.Exact number) (written : expression.WrittenIn level text)
    (notNumeral : ∀ value, ¬SignedNumeral text.toList value) :
    ((∃ bound, evaluate context text = .error (.excess bound)) ∨
        ∃ evaluation, evaluate context text = .ok evaluation ∧
          IsPlainTextOf evaluation.result number ∧
            ∀ other, IsPlainTextOf other number → other = evaluation.result) ∧
      ∀ precision, evaluate { context with precision := precision } text =
        evaluate context text := by
  have notLiteral := written.parse?_eq_none notNumeral
  rcases written with ⟨tokens, lexemes, writtenTokens, spelled, laidOut⟩
  have evaluated (context : Context) :
      evaluate context text = Evaluation.ofTokens context tokens := by
    rw [evaluate, notLiteral, expressionTokens_written writtenTokens spelled laidOut]
    rfl
  refine ⟨?_, ?_⟩
  · rw [evaluated]
    rcases exact.ofTokens_cases context writtenTokens with failed | ⟨evaluation, succeeded, shows⟩
    · exact .inl failed
    · exact .inr ⟨evaluation, succeeded, shows, fun other otherShows => otherShows.unique shows⟩
  · intro precision
    rw [evaluated, evaluated]
    exact exact.ofTokens_precision context precision writtenTokens

/-- A difference of a fraction, times a negative literal: all digits are shown, with any
precision. -/
theorem evaluate_exact_product :
    (∀ value, ¬SignedNumeral "(0.5-3)x-4.1".toList value) ∧
      IsPlainTextOf "10.25" ((0.5 - 3) * -4.1) ∧
      ∀ precision, evaluate { Context.default with precision := precision } "(0.5-3)x-4.1" =
        .ok ⟨"10.25", ⟨"( 0.5 - 3 ) x -4.1", "0.5 3 - -4.1 x"⟩⟩ := by
  have notNumeral : ∀ value, ¬SignedNumeral "(0.5-3)x-4.1".toList value := by
    intro value signed
    have notRead : Decimal.ofChars? "(0.5-3)x-4.1".toList = none := by decide
    rw [signed.ofChars?_eq] at notRead
    cases notRead
  have half : (Expression.literal ⟨5, 1⟩).WrittenIn .operand "0.5" :=
    .numeral (@Numeral.pointed ['0'] ['5'] (by decide) (by decide))
  have three : (Expression.literal ⟨3, 0⟩).WrittenIn .operand "3" :=
    .numeral (.whole (by decide) (by decide))
  have negative : (Expression.literal ⟨-41, 1⟩).WrittenIn .operand "-4.1" :=
    @Expression.WrittenIn.negative "4.1" ⟨41, 1⟩
      (@Numeral.pointed ['4'] ['1'] (by decide) (by decide))
  have difference : (Expression.binary .minus (.literal ⟨5, 1⟩) (.literal ⟨3, 0⟩)).WrittenIn .sum
      "0.5-3" :=
    .binary .minus (.loosened half (by decide)) (.loosened three (by decide))
  have written : Expression.WrittenIn .product
      (.binary .cross (.group (.binary .minus (.literal ⟨5, 1⟩) (.literal ⟨3, 0⟩)))
        (.literal ⟨-41, 1⟩)) "(0.5-3)x-4.1" :=
    .binary .cross (.loosened difference.group (by decide)) (.loosened negative (by decide))
  have exact := Expression.Exact.product (.inl (rfl : Operator.cross = .cross))
    (.group (.difference (.literal ⟨5, 1⟩) (.literal ⟨3, 0⟩))) (.literal ⟨-41, 1⟩)
  have evaluated : evaluate Context.default "(0.5-3)x-4.1" =
      .ok ⟨"10.25", ⟨"( 0.5 - 3 ) x -4.1", "0.5 3 - -4.1 x"⟩⟩ := by decide
  rcases evaluate_exact Context.default exact written notNumeral with
    ⟨⟨bound, failed⟩ | ⟨evaluation, succeeded, shows, -⟩, precise⟩
  · rw [evaluated] at failed
    cases failed
  · rw [evaluated] at succeeded precise
    cases succeeded
    refine ⟨notNumeral, ?_, precise⟩
    convert shows using 1
    norm_num [Decimal.toRat]

end DecimalCalculator
