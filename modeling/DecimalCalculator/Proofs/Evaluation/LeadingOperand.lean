import DecimalCalculator.Proofs.Evaluation.LeadingZero
import DecimalCalculator.Proofs.Expression.Frame
import DecimalCalculator.Proofs.Expression.Order

/-!
# A zero in front of an operator

A zero in front of an operator is the first value of a run, and stays at the bottom of the stack
until an operator takes it. If that is the operator behind it, the text without the zero comes to
the same: the operator finds no left operand then, and takes zero.

A minus sign is apart, since without the zero it is fused with a numeral behind it. Then the text
begins with a negative number, where a number was to be subtracted from zero. The two agree as long
as that number is only multiplied and divided before it is subtracted; a power or a factorial
applies to the negative number, and to the positive one with the zero in front.
-/

namespace DecimalCalculator

open Token

variable {context : Context} {text other : String}

/-! ## Answers and runs -/

theorem shown_of_answer (answered : answer context text ≠ errorMarker)
    (notLiteral : Decimal.parse? text = none) {value : Decimal}
    (member : number value ∈ expressionTokens text) : value.Shown context := by
  by_contra notShown
  apply answered
  apply answer_of_failure
  rw [evaluate, notLiteral]
  exact evaluation_of_not_shown member notShown

/-- The tokens of a literal without an unknown one are evaluated as its number is shown. -/
theorem result_of_literal (context : Context) {value : Decimal}
    (parsed : Decimal.parse? text = some value)
    (known : ∀ name, unknown name ∉ expressionTokens text) :
    number value ∈ expressionTokens text ∧
      (Evaluation.ofTokens context (expressionTokens text)).map Evaluation.result =
        value.render context := by
  rcases scan_of_literal parsed with ⟨-, alone | signed⟩ | ⟨name, member⟩
  · rw [expressionTokens, alone]
    exact ⟨List.mem_cons_self, result_number context value⟩
  · rw [expressionTokens, signed]
    exact ⟨List.mem_cons_of_mem _ List.mem_cons_self, result_plus_number context value⟩
  · exact absurd (unknown_mem_dropPendingOperator member) (known name)

/-- What comes out of the run of a text is its answer, unless the text is a literal; its answer is
then another text of the same number. -/
theorem answeredAlike_of_run
    (shown : ∀ value, number value ∈ expressionTokens other → value.Shown context)
    (known : ∀ name, unknown name ∉ expressionTokens other)
    (ran : ReversePolish.run context (ReversePolish.ofTokens (expressionTokens other)) =
      .ok (answer context text)) : AnsweredAlike context other text := by
  have result := result_evaluation_of_shown shown
  rw [ran] at result
  cases parsed : Decimal.parse? other with
  | none =>
      apply AnsweredAlike.of_eq
      cases evaluated : Evaluation.ofTokens context (expressionTokens other) with
      | error cause =>
          rw [evaluated] at result
          cases result
      | ok evaluation =>
          rw [evaluated] at result
          rw [answer, evaluate, parsed]
          simp only [Option.isSome_none, Bool.false_eq_true, ↓reduceIte, evaluated]
          exact Except.ok.inj result
  | some value =>
      have rendered := (result_of_literal context parsed known).2
      rw [result, eq_comm] at rendered
      rcases (Decimal.isPlainTextOf_render rendered).exists_parse? with ⟨read, textRead, same⟩
      refine .numbers ?_ textRead same.symm
      rwa [answer_of_literal (by simp [parsed])]

/-- A text with an answer has a run that comes to an end. -/
theorem exists_run_of_answer
    (shown : ∀ value, number value ∈ expressionTokens text → value.Shown context)
    (known : ∀ name, unknown name ∉ expressionTokens text)
    (answered : answer context text ≠ errorMarker) :
    ∃ result, ReversePolish.run context (ReversePolish.ofTokens (expressionTokens text)) =
      .ok result := by
  cases parsed : Decimal.parse? text with
  | none => exact ⟨_, run_of_answer answered parsed⟩
  | some value =>
      rcases result_of_literal context parsed known with ⟨member, result⟩
      rcases shown value member with ⟨written, rendered⟩
      exact ⟨written, by rw [← result_evaluation_of_shown shown, result, rendered]⟩

/-! ## Texts that leave out a zero -/

/-- The tokens of a text in reverse Polish order. -/
def reversePolish (text : String) : List Token :=
  ReversePolish.ofTokens (expressionTokens text)

/-- Whether a run takes the zero at its beginning, and the other text leaves it out: an operator
takes it where it would take one anyway, or a number is subtracted from it at once and is negative
in the other text. -/
inductive LeavesOutZero (text other : String) : Prop
  | operand (zero : reversePolish text = number Decimal.zero :: reversePolish other)
      (takes : ReversePolish.TakesZero 0 (reversePolish other))
  | subtrahend {value : Decimal} {tokens : List Token}
      (zero : reversePolish text =
        number Decimal.zero :: number value :: operator .minus :: tokens)
      (negative : reversePolish other = number value.neg :: tokens)

/-- Whether a number is multiplied and divided before it is subtracted from a zero in front, and the
other text begins with its opposite instead. -/
inductive LeavesOutMinus (text other : String) : Prop
  | intro {value : Decimal} {front back : List Token}
      (zero : reversePolish text =
        number Decimal.zero :: number value :: (front ++ operator .minus :: back))
      (negative : reversePolish other = number value.neg :: (front ++ back))
      (keeps : ReversePolish.KeepsOpposites 0 front)
      (noFunction : ReversePolish.NoFunctionBelow 0 back)

/-! ## Expressions that begin with a zero -/

namespace Expression

/-- The post-order of an expression adds one value to those that a run goes on with. -/
theorem takesZero_postOrder (expression : Expression) {height : Nat} {behind : List Token}
    (takes : ReversePolish.TakesZero (height + 1) behind) :
    ReversePolish.TakesZero height (expression.postOrder ++ behind) :=
  postOrder_induction .above expression takes

/-- What is known of an expression that begins with a number: the number comes first in post-order
as well, and an operator behind it takes it for its left operand. -/
structure BeginsWith (expression : Expression) (value : Decimal) (rest : List Token)
    (behind : List Token) : Prop where
  postOrder : expression.postOrder = number value :: behind
  takes : ∀ infixed, rest.head? = some (operator infixed) → ReversePolish.TakesZero 0 behind
  alone : rest = [] → behind = []

theorem Written.exists_beginsWith {level : Level} {expression : Expression} {tokens : List Token}
    (written : expression.Written level tokens) {value : Decimal} {rest : List Token}
    (begins : tokens = number value :: rest) :
    ∃ behind, expression.BeginsWith value rest behind := by
  induction written generalizing rest with
  | literal literal =>
      cases begins
      exact ⟨[], rfl, by simp, fun _ => rfl⟩
  | @binary infixed left right leftTokens rightTokens leftWritten rightWritten ihLeft ihRight =>
      rcases List.append_eq_cons_iff.1 begins with ⟨-, isNumber⟩ | ⟨more, split, rfl⟩
      · cases isNumber
      rcases ihLeft split with ⟨behind, begins⟩
      refine ⟨behind ++ right.postOrder ++ [operator infixed], ?_, ?_, by simp⟩
      · simp [Expression.postOrder, begins.postOrder]
      · intro first isFirst
        rcases more with _ | ⟨next, more⟩
        · rw [begins.alone rfl]
          exact right.takesZero_postOrder (.missing infixed [])
        · exact ((begins.takes first isFirst).append _).append _
  | @marked suffixed operand tokens written ih =>
      rcases List.append_eq_cons_iff.1 begins with ⟨-, isNumber⟩ | ⟨more, split, rfl⟩
      · cases isNumber
      rcases ih split with ⟨behind, begins⟩
      refine ⟨behind ++ [mark suffixed], ?_, ?_, by simp⟩
      · simp [Expression.postOrder, begins.postOrder]
      · intro first isFirst
        rcases more with _ | ⟨next, more⟩
        · cases isFirst
        · exact (begins.takes first isFirst).append _
  | call | group | parenthesized => cases begins
  | loosened written ordered ih => exact ih begins

end Expression

/-- In an expression that begins with a zero and an operator, the zero can be left out. -/
theorem LeavesOutZero.of_written {level : Level} {expression : Expression} {infixed : Operator}
    {rest : List Token}
    (written : expression.Written level (number Decimal.zero :: operator infixed :: rest))
    (zero : expressionTokens text = number Decimal.zero :: operator infixed :: rest)
    (leftOut : expressionTokens other = operator infixed :: rest) : LeavesOutZero text other := by
  rcases written.exists_beginsWith rfl with ⟨behind, begins⟩
  have ordered := (ReversePolish.settles_written written (.nil level)).ofTokens_eq
  have same : ReversePolish.ofTokens (operator infixed :: rest) = behind := by
    rw [begins.postOrder] at ordered
    exact (List.cons.inj ordered).2
  apply LeavesOutZero.operand
  · rw [reversePolish, reversePolish, zero, leftOut]
    rfl
  · rw [reversePolish, leftOut, same]
    exact begins.takes infixed rfl

/-! ## The tokens of a text without the zero -/

/-- Whether all tokens of a text are among those of another one, but for signs of numbers. -/
def FromTokens (other text : String) : Prop :=
  ∀ token ∈ reversePolish other,
    token ∈ reversePolish text ∨
      ∃ value : Decimal, token = number value.neg ∧ number value ∈ reversePolish text

theorem LeavesOutZero.fromTokens (leaves : LeavesOutZero text other) : FromTokens other text := by
  intro token member
  cases leaves with
  | operand zero takes =>
      left
      rw [zero]
      exact List.mem_cons_of_mem _ member
  | @subtrahend value tokens zero negative =>
      rw [negative] at member
      rw [zero]
      rcases List.mem_cons.1 member with rfl | member
      · exact .inr ⟨value, rfl, by simp⟩
      · exact .inl (by simp [member])

theorem LeavesOutMinus.fromTokens (leaves : LeavesOutMinus text other) :
    FromTokens other text := by
  intro token member
  rcases leaves with @⟨value, front, back, zero, negative, -, -⟩
  rw [negative] at member
  rw [zero]
  rcases List.mem_cons.1 member with rfl | member
  · exact .inr ⟨value, rfl, by simp⟩
  · left
    rcases List.mem_append.1 member with inFront | inBack
    · simp [inFront]
    · simp [inBack]

theorem mem_reversePolish_of_number {value : Decimal} :
    number value ∈ reversePolish text ↔ number value ∈ expressionTokens text :=
  ReversePolish.mem_ofTokens (by simp) (by simp) _

theorem Decimal.Shown.neg {value : Decimal} (shown : value.Shown context) :
    value.neg.Shown context := by
  rw [Shown, render, isZero_neg, plainLength_neg]
  rcases shown with ⟨text, rendered⟩
  rw [render] at rendered
  split at rendered
  · cases rendered
  next accepted => exact ⟨_, if_neg accepted⟩

namespace FromTokens

variable (fromTokens : FromTokens other text) (answered : answer context text ≠ errorMarker)
variable (notLiteral : Decimal.parse? text = none)

include fromTokens answered notLiteral

theorem shown {value : Decimal} (member : number value ∈ expressionTokens other) :
    value.Shown context := by
  rcases fromTokens _ (mem_reversePolish_of_number.2 member) with same | ⟨opposite, same, found⟩
  · exact shown_of_answer answered notLiteral (mem_reversePolish_of_number.1 same)
  · cases same
    exact (shown_of_answer answered notLiteral (mem_reversePolish_of_number.1 found)).neg

theorem known (name : String) : unknown name ∉ expressionTokens other := by
  intro member
  have inOrder := (ReversePolish.mem_ofTokens (by simp) (by simp) _).2 member
  rcases fromTokens _ inOrder with same | ⟨opposite, same, -⟩
  · have refused : ∃ cause, Evaluation.ofTokens context (expressionTokens text) = .error cause :=
      evaluation_refused same rfl
    rcases refused with ⟨cause, failed⟩
    apply answered
    apply answer_of_failure
    rw [evaluate, notLiteral]
    exact failed
  · cases same

end FromTokens

/-! ## Answers without the zero -/

theorem LeavesOutZero.run_eq (leaves : LeavesOutZero text other) :
    ReversePolish.run context (reversePolish other) =
      ReversePolish.run context (reversePolish text) := by
  cases leaves with
  | operand zero takes => rw [zero, takes.run_eq]
  | subtrahend zero negative => rw [zero, negative, ReversePolish.run_zero_minus]

theorem LeavesOutMinus.agree_run (leaves : LeavesOutMinus text other) :
    Agree Eq (ReversePolish.run context (reversePolish text))
      (ReversePolish.run context (reversePolish other)) := by
  rcases leaves with ⟨zero, negative, keeps, noFunction⟩
  rw [zero, negative]
  exact keeps.agree_run noFunction context _

/-- A zero that a run takes anyway can be left out. -/
theorem LeavesOutZero.answeredAlike (leaves : LeavesOutZero text other)
    (notLiteral : Decimal.parse? text = none) (answered : answer context text ≠ errorMarker) :
    AnsweredAlike context other text := by
  have fromTokens := leaves.fromTokens
  refine answeredAlike_of_run (fun value => fromTokens.shown answered notLiteral)
    (fromTokens.known answered notLiteral) ?_
  exact leaves.run_eq.trans (run_of_answer answered notLiteral)

/-- Subtracting a number from zero can be left out for the opposite number, as long as no bound is
exceeded. -/
theorem LeavesOutMinus.answeredAlike (leaves : LeavesOutMinus text other)
    (notLiteral : Decimal.parse? text = none) (answered : answer context text ≠ errorMarker)
    (otherAnswered : answer context other ≠ errorMarker) : AnsweredAlike context other text := by
  have shown : ∀ value, number value ∈ expressionTokens other → value.Shown context :=
    fun value => leaves.fromTokens.shown answered notLiteral
  have known := leaves.fromTokens.known answered notLiteral
  rcases exists_run_of_answer shown known otherAnswered with ⟨result, ran⟩
  have agree : Agree Eq (.ok (answer context text)) (.ok result) := by
    rw [← run_of_answer answered notLiteral, ← ran]
    exact leaves.agree_run
  rw [← agree.of_ok] at ran
  exact answeredAlike_of_run shown known ran

end DecimalCalculator
