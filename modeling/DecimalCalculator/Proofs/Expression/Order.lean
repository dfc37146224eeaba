import DecimalCalculator.Proofs.Expression.Writing
import DecimalCalculator.ReversePolish.Order

/-!
# Written expressions in reverse Polish order

Bringing the writing of a tree into reverse Polish order gives the post-order of the tree. This
file proves it by induction on the writing.

When the tokens of an expression are consumed, some of its operators may still wait: those
whose right operand has just ended. They are let out by whatever stands behind the expression.
The invariant therefore splits the post-order in two, the part that went out and the operators
that are pending, latest first. All pending operators have at least the rank of the level at
which the expression is written, so an operator of that level lets out all of them. An operator
of the expression itself must not reach the tokens that waited before: this is what a level asks
of the tokens that wait where an expression begins.
-/

namespace DecimalCalculator.ReversePolish

/-- Whether tokens are operators that have at least the rank of a level. -/
def Pending (level : Level) (tokens : List Token) : Prop :=
  ∀ token ∈ tokens, ∃ operator : Operator,
    token = .operator operator ∧ level.rank ≤ operator.rank

/-- Whether an expression of a level can begin where the given tokens wait: no function stands
right in front of it, and its operators let out none of the tokens. -/
structure Admits (level : Level) (waiting : List Token) : Prop where
  noFunction : releaseFunction waiting = ([], waiting)
  noneYields : ∀ operator : Operator, level.rank ≤ operator.rank →
    waiting.takeWhile (yieldsTo (.operator operator)) = []

/-- What is known after the tokens of an expression: a part of its post-order has gone out, and
the rest of it is pending on top of the tokens that waited before. -/
def Settles (level : Level) (waiting tokens output : List Token) : Prop :=
  ∃ emitted pending, emitted ++ pending = output ∧ Pending level pending ∧
    ∀ rest, order waiting (tokens ++ rest) = emitted ++ order (pending ++ waiting) rest

/-! ## Ranks and levels -/

theorem rank_level (operator : Operator) : operator.level.rank = operator.rank := by
  cases operator <;> rfl

theorem rank_level_le_leftLevel (operator : Operator) :
    operator.level.rank ≤ operator.leftLevel.rank := by
  cases operator <;> decide

theorem rank_level_le_rightLevel (operator : Operator) :
    operator.level.rank ≤ operator.rightLevel.rank := by
  cases operator <;> decide

theorem yieldsTo_of_leftLevel_le {arriving waiting : Operator}
    (ordered : arriving.leftLevel.rank ≤ waiting.rank) :
    yieldsTo (.operator arriving) (.operator waiting) := by
  cases arriving <;> cases waiting <;> first | rfl | exact absurd ordered (by decide)

theorem not_yieldsTo_of_rightLevel_le {arriving waiting : Operator}
    (ordered : waiting.rightLevel.rank ≤ arriving.rank) :
    ¬yieldsTo (.operator arriving) (.operator waiting) := by
  cases arriving <;> cases waiting <;> first | decide | exact absurd ordered (by decide)

namespace Pending

variable {level tight loose : Level} {pending : List Token}

theorem loosened (operators : Pending tight pending) (ordered : loose.rank ≤ tight.rank) :
    Pending loose pending := by
  intro token member
  rcases operators token member with ⟨operator, rfl, bounded⟩
  exact ⟨operator, rfl, Nat.le_trans ordered bounded⟩

theorem not_isOpenParen (operators : Pending level pending) :
    ∀ token ∈ pending, !token.isOpenParen := by
  intro token member
  rcases operators token member with ⟨operator, rfl, -⟩
  rfl

theorem yieldsTo {operator : Operator} (operators : Pending operator.leftLevel pending) :
    ∀ token ∈ pending, yieldsTo (.operator operator) token := by
  intro token member
  rcases operators token member with ⟨waiting, rfl, bounded⟩
  exact yieldsTo_of_leftLevel_le bounded

theorem eq_nil (operators : Pending .operand pending) : pending = [] := by
  apply List.eq_nil_iff_forall_not_mem.2
  intro token member
  rcases operators token member with ⟨operator, -, bounded⟩
  revert bounded
  cases operator <;> decide

end Pending

namespace Admits

variable {level tight loose : Level} {waiting : List Token}

theorem nil (level : Level) : Admits level [] :=
  ⟨rfl, fun _ _ => rfl⟩

theorem openParen (level : Level) (waiting : List Token) :
    Admits level (.openParen :: waiting) := by
  refine ⟨rfl, ?_⟩
  intro operator _
  simp [ReversePolish.yieldsTo, Token.isOpenParen]

theorem operator (operator : Operator) (waiting : List Token) :
    Admits operator.rightLevel (.operator operator :: waiting) := by
  refine ⟨rfl, ?_⟩
  intro arriving bounded
  exact List.takeWhile_cons_of_neg (not_yieldsTo_of_rightLevel_le bounded)

theorem tightened (admitted : Admits loose waiting) (ordered : loose.rank ≤ tight.rank) :
    Admits tight waiting := by
  refine ⟨admitted.noFunction, ?_⟩
  intro operator bounded
  exact admitted.noneYields operator (Nat.le_trans ordered bounded)

theorem dropWhile_eq (admitted : Admits level waiting) {operator : Operator}
    (bounded : level.rank ≤ operator.rank) :
    waiting.dropWhile (yieldsTo (.operator operator)) = waiting := by
  have whole := List.takeWhile_append_dropWhile (p := yieldsTo (.operator operator))
    (l := waiting)
  rw [admitted.noneYields operator bounded] at whole
  exact whole

end Admits

/-! ## One token at a time -/

/-- An operator behind its left operand lets out what is pending there, and nothing else. -/
theorem order_operator {operator : Operator} {pending waiting : List Token}
    (operators : Pending operator.leftLevel pending) (admitted : Admits operator.level waiting)
    (rest : List Token) :
    order (pending ++ waiting) (.operator operator :: rest) =
      pending ++ order (.operator operator :: waiting) rest := by
  have bounded : operator.level.rank ≤ operator.rank := Nat.le_of_eq (rank_level operator)
  rw [order, List.takeWhile_append_of_pos operators.yieldsTo,
    List.dropWhile_append_of_pos operators.yieldsTo, admitted.noneYields operator bounded,
    admitted.dropWhile_eq bounded, List.append_nil]

theorem close_append {pending : List Token} (inside : ∀ token ∈ pending, !token.isOpenParen)
    (waiting : List Token) :
    close (pending ++ .openParen :: waiting) =
      (pending ++ (releaseFunction waiting).1, (releaseFunction waiting).2) := by
  simp only [close]
  rw [List.takeWhile_append_of_pos inside, List.dropWhile_append_of_pos inside]
  simp [Token.isOpenParen]

/-- What is written in parentheses goes out as a whole, with the function in front of it. -/
theorem order_parenthesized {waiting tokens output : List Token}
    (settled : Settles .sum (.openParen :: waiting) tokens output) (rest : List Token) :
    order waiting (.openParen :: (tokens ++ [.closeParen] ++ rest)) =
      output ++ (releaseFunction waiting).1 ++ order (releaseFunction waiting).2 rest := by
  rcases settled with ⟨emitted, pending, rfl, operators, ordered⟩
  rw [order, List.append_assoc, ordered, List.singleton_append, order,
    close_append operators.not_isOpenParen]
  simp only [List.append_assoc]

/-! ## One rule of the grammar at a time -/

namespace Settles

variable {waiting tokens output : List Token}

theorem ofForall {level : Level}
    (ordered : ∀ rest, order waiting (tokens ++ rest) = output ++ order waiting rest) :
    Settles level waiting tokens output :=
  ⟨output, [], List.append_nil output, fun _ member => absurd member List.not_mem_nil, ordered⟩

theorem loosened {tight loose : Level} (settled : Settles tight waiting tokens output)
    (ordered : loose.rank ≤ tight.rank) : Settles loose waiting tokens output := by
  rcases settled with ⟨emitted, pending, split, operators, consumed⟩
  exact ⟨emitted, pending, split, operators.loosened ordered, consumed⟩

theorem binary {operator : Operator} {leftTokens rightTokens leftOutput rightOutput : List Token}
    (admitted : Admits operator.level waiting)
    (left : Settles operator.leftLevel waiting leftTokens leftOutput)
    (right : Settles operator.rightLevel (.operator operator :: waiting) rightTokens
      rightOutput) :
    Settles operator.level waiting (leftTokens ++ .operator operator :: rightTokens)
      (leftOutput ++ rightOutput ++ [.operator operator]) := by
  rcases left with ⟨leftEmitted, leftPending, rfl, leftOperators, leftOrdered⟩
  rcases right with ⟨rightEmitted, rightPending, rfl, rightOperators, rightOrdered⟩
  refine ⟨leftEmitted ++ leftPending ++ rightEmitted, rightPending ++ [.operator operator],
    ?_, ?_, ?_⟩
  · simp only [List.append_assoc]
  · intro token member
    rcases List.mem_append.1 member with inRight | last
    · exact rightOperators.loosened (rank_level_le_rightLevel operator) token inRight
    · exact ⟨operator, List.mem_singleton.1 last, Nat.le_of_eq (rank_level operator)⟩
  · intro rest
    rw [List.append_assoc, leftOrdered, List.cons_append, order_operator leftOperators admitted,
      rightOrdered]
    simp only [List.append_assoc, List.singleton_append]

theorem marked (mark : Mark) (settled : Settles .operand waiting tokens output) :
    Settles .operand waiting (tokens ++ [.mark mark]) (output ++ [.mark mark]) := by
  rcases settled with ⟨emitted, pending, rfl, operators, ordered⟩
  rw [operators.eq_nil] at ordered ⊢
  apply ofForall
  intro rest
  rw [List.append_assoc, ordered]
  simp [order]

theorem parenthesized (admitted : Admits .operand waiting)
    (settled : Settles .sum (.openParen :: waiting) tokens output) :
    Settles .operand waiting (.openParen :: (tokens ++ [.closeParen])) output := by
  apply ofForall
  intro rest
  rw [List.cons_append, order_parenthesized settled, admitted.noFunction, List.append_nil]

theorem call (function : UnaryFunction)
    (settled : Settles .sum (.openParen :: .function function :: waiting) tokens output) :
    Settles .operand waiting (.function function :: .openParen :: (tokens ++ [.closeParen]))
      (output ++ [.function function]) := by
  apply ofForall
  intro rest
  rw [List.cons_append, List.cons_append, order, order_parenthesized settled]
  rfl

end Settles

/-! ## Whole expressions -/

/-- The tokens of an expression settle to its post-order, wherever it can begin. -/
theorem settles_written {level : Level} {expression : Expression} {tokens : List Token}
    (written : expression.Written level tokens) {waiting : List Token}
    (admitted : Admits level waiting) :
    Settles level waiting tokens expression.postOrder := by
  induction written generalizing waiting with
  | literal value => exact .ofForall fun rest => rfl
  | binary operator leftWritten rightWritten ihLeft ihRight =>
      exact .binary admitted
        (ihLeft (admitted.tightened (rank_level_le_leftLevel operator)))
        (ihRight (.operator operator waiting))
  | marked mark written ih => exact .marked mark (ih admitted)
  | call function written ih => exact .call function (ih (.openParen .sum _))
  | group written ih | parenthesized written ih =>
      exact .parenthesized admitted (ih (.openParen .sum waiting))
  | loosened written ordered ih =>
      exact .loosened (ih (admitted.tightened ordered)) ordered

theorem Settles.ofTokens_eq {level : Level} {tokens output : List Token}
    (settled : Settles level [] tokens output) : ofTokens tokens = output := by
  rcases settled with ⟨emitted, pending, split, operators, ordered⟩
  have consumed := ordered []
  rw [List.append_nil, List.append_nil, order] at consumed
  rw [ofTokens, consumed, split]

/-- The reverse Polish order of a written expression is the post-order of its tree. -/
theorem ofTokens_written {level : Level} {expression : Expression} {tokens : List Token}
    (written : expression.Written level tokens) : ofTokens tokens = expression.postOrder :=
  (settles_written written (Admits.nil level)).ofTokens_eq

/-- Differences group to the left and powers to the right, the mark stands above all operators,
and the function goes out behind the sum in its parentheses. -/
theorem ofTokens_written_difference :
    ofTokens [.number ⟨10, 0⟩, .operator .minus, .number ⟨4, 0⟩, .operator .minus,
        .number ⟨2, 0⟩, .operator .caret, .number ⟨3, 0⟩, .operator .caret, .number ⟨2, 0⟩,
        .operator .cross, .function .sqrt, .openParen, .number ⟨1, 0⟩, .operator .plus,
        .number ⟨8, 0⟩, .closeParen, .mark .factorial] =
      [.number ⟨10, 0⟩, .number ⟨4, 0⟩, .operator .minus, .number ⟨2, 0⟩, .number ⟨3, 0⟩,
        .number ⟨2, 0⟩, .operator .caret, .operator .caret, .number ⟨1, 0⟩, .number ⟨8, 0⟩,
        .operator .plus, .function .sqrt, .mark .factorial, .operator .cross,
        .operator .minus] := by
  have literal (level : Level) (value : Decimal) :
      Expression.Written level (.literal value) [.number value] :=
    .loosened (.literal value) (by cases level <;> decide)
  have difference := Expression.Written.binary .minus (literal .sum ⟨10, 0⟩)
    (literal .product ⟨4, 0⟩)
  have powers := Expression.Written.binary .caret (literal .operand ⟨2, 0⟩)
    (.binary .caret (literal .operand ⟨3, 0⟩) (literal .power ⟨2, 0⟩))
  have sum := Expression.Written.binary .plus (literal .sum ⟨1, 0⟩) (literal .product ⟨8, 0⟩)
  have product := Expression.Written.binary .cross (.loosened powers (by decide))
    (.loosened (.marked .factorial (.call .sqrt sum)) (by decide))
  exact ofTokens_written (.binary .minus difference product)

end DecimalCalculator.ReversePolish
