import DecimalCalculator.Proofs.Expression.Basic
import Mathlib.Data.List.Chain

/-!
# Writing expressions

The grammar of expressions, as a relation between a tree and the tokens it is written with. A
sum is made of products, a product of powers, a power of operands, and marks stand behind
their operand. Sums and products group to the left and powers to the right, so the left operand
of a sum is again a sum and the right operand of a power is again a power.

Parentheses are written for the groups of a tree, and may be added around any other part of it:
a tree that its operators alone would not give back still has a writing, and one tree has many
writings. The relation says nothing of reverse Polish order or of ranks.

What the other parts of the library use of the grammar is its outer shape: which token can
stand behind which, and that the last token ends an operand.
-/

namespace DecimalCalculator

/-- The levels of the grammar, the loosest first. -/
inductive Level
  | sum
  | product
  | power
  | operand
  deriving DecidableEq, Repr

namespace Level

/-- The rank of the operators of a level. Operands lie above all operators. -/
def rank : Level → Nat
  | sum => 2
  | product => 3
  | power => 4
  | operand => 5

end Level

namespace Operator

def level : Operator → Level
  | plus | minus => .sum
  | star | cross | slash => .product
  | caret => .power

def leftLevel : Operator → Level
  | plus | minus => .sum
  | star | cross | slash => .product
  | caret => .operand

def rightLevel : Operator → Level
  | plus | minus => .product
  | star | cross | slash => .power
  | caret => .power

end Operator

namespace Expression

/-- The tokens a tree is written with at a level of the grammar. -/
inductive Written : Level → Expression → List Token → Prop
  | literal (value : Decimal) : Written .operand (literal value) [.number value]
  | binary (operator : Operator) {left right : Expression} {leftTokens rightTokens : List Token}
      (leftWritten : Written operator.leftLevel left leftTokens)
      (rightWritten : Written operator.rightLevel right rightTokens) :
      Written operator.level (binary operator left right)
        (leftTokens ++ .operator operator :: rightTokens)
  | marked (mark : Mark) {operand : Expression} {tokens : List Token}
      (written : Written .operand operand tokens) :
      Written .operand (marked operand mark) (tokens ++ [.mark mark])
  | call (function : UnaryFunction) {argument : Expression} {tokens : List Token}
      (written : Written .sum argument tokens) :
      Written .operand (call function argument)
        (.function function :: .openParen :: (tokens ++ [.closeParen]))
  | group {body : Expression} {tokens : List Token} (written : Written .sum body tokens) :
      Written .operand (group body) (.openParen :: (tokens ++ [.closeParen]))
  | parenthesized {expression : Expression} {tokens : List Token}
      (written : Written .sum expression tokens) :
      Written .operand expression (.openParen :: (tokens ++ [.closeParen]))
  | loosened {tight loose : Level} {expression : Expression} {tokens : List Token}
      (written : Written tight expression tokens) (ordered : loose.rank ≤ tight.rank) :
      Written loose expression tokens

theorem exists_written (expression : Expression) :
    ∃ tokens, expression.Written .operand tokens := by
  induction expression with
  | literal value => exact ⟨_, .literal value⟩
  | binary operator left right ihLeft ihRight =>
      rcases ihLeft with ⟨leftTokens, leftWritten⟩
      rcases ihRight with ⟨rightTokens, rightWritten⟩
      refine ⟨_, .parenthesized (.loosened (.binary operator (.loosened leftWritten ?_)
        (.loosened rightWritten ?_)) ?_)⟩ <;> cases operator <;> decide
  | marked operand mark ih =>
      rcases ih with ⟨tokens, written⟩
      exact ⟨_, .marked mark written⟩
  | call function argument ih =>
      rcases ih with ⟨tokens, written⟩
      exact ⟨_, .call function (.loosened written (by decide))⟩
  | group body ih =>
      rcases ih with ⟨tokens, written⟩
      exact ⟨_, .group (.loosened written (by decide))⟩

theorem Written.number_mem {level : Level} {expression : Expression} {tokens : List Token}
    (written : expression.Written level tokens) (value : Decimal) :
    .number value ∈ tokens ↔ value ∈ expression.literals := by
  induction written with
  | literal => simp [literals]
  | binary operator leftWritten rightWritten ihLeft ihRight =>
      simp [literals, ihLeft, ihRight]
  | marked mark written ih => simp [literals, ih]
  | call function written ih => simp [literals, ih]
  | group written ih => simp [literals, ih]
  | parenthesized written ih => simp [ih]
  | loosened written ordered ih => exact ih

end Expression

/-! ## The shape of a writing -/

namespace Token

/-- Whether an operand begins right behind a token. -/
def opensOperand : Token → Bool
  | operator _ | openParen => true
  | _ => false

def beginsOperand : Token → Bool
  | number _ | function _ | openParen => true
  | _ => false

def endsOperand : Token → Bool
  | number _ | mark _ | closeParen => true
  | _ => false

def followsOperand : Token → Bool
  | operator _ | mark _ | closeParen => true
  | _ => false

/-- Whether a token can stand right behind another one in the writing of an expression. -/
def CanFollow (previous next : Token) : Prop :=
  (previous.opensOperand ∧ next.beginsOperand) ∨ (previous.endsOperand ∧ next.followsOperand) ∨
    (previous.isFunction ∧ next = openParen)

end Token

namespace Expression

open Token

theorem isChain_parenthesized {tokens rest : List Token} {previous : Token}
    (canFollow : CanFollow previous openParen)
    (inside : ∀ rest : List Token,
      (∀ last : Token, last.endsOperand → (last :: rest).IsChain CanFollow) →
        (openParen :: (tokens ++ rest)).IsChain CanFollow)
    (continued : ∀ last : Token, last.endsOperand → (last :: rest).IsChain CanFollow) :
    (previous :: openParen :: (tokens ++ [closeParen] ++ rest)).IsChain CanFollow := by
  refine .cons_cons canFollow ?_
  rw [List.append_assoc]
  apply inside
  intro last ends
  exact .cons_cons (.inr (.inl ⟨ends, rfl⟩)) (continued closeParen rfl)

/-- A writing can stand wherever an operand begins, before all that can stand behind an
operand. -/
theorem Written.isChain {level : Level} {expression : Expression} {tokens rest : List Token}
    (written : expression.Written level tokens) {previous : Token}
    (opening : previous.opensOperand)
    (continued : ∀ last : Token, last.endsOperand → (last :: rest).IsChain CanFollow) :
    (previous :: (tokens ++ rest)).IsChain CanFollow := by
  induction written generalizing previous rest with
  | literal value => exact .cons_cons (.inl ⟨opening, rfl⟩) (continued (number value) rfl)
  | binary infixed leftWritten rightWritten ihLeft ihRight =>
      rw [List.append_assoc]
      apply ihLeft opening
      intro last ends
      exact .cons_cons (.inr (.inl ⟨ends, rfl⟩)) (ihRight rfl continued)
  | marked suffixed written ih =>
      rw [List.append_assoc]
      apply ih opening
      intro last ends
      exact .cons_cons (.inr (.inl ⟨ends, rfl⟩)) (continued (mark suffixed) rfl)
  | call named written ih =>
      refine .cons_cons (.inl ⟨opening, rfl⟩) ?_
      exact isChain_parenthesized (.inr (.inr ⟨rfl, rfl⟩)) (fun _ => ih rfl) continued
  | group written ih | parenthesized written ih =>
      exact isChain_parenthesized (.inl ⟨opening, rfl⟩) (fun _ => ih rfl) continued
  | loosened written ordered ih => exact ih opening continued

theorem Written.isChain_openParen {level : Level} {expression : Expression} {tokens : List Token}
    (written : expression.Written level tokens) : (openParen :: tokens).IsChain CanFollow := by
  rw [← List.append_nil tokens]
  exact written.isChain rfl fun last _ => .singleton last

theorem Written.exists_append_last {level : Level} {expression : Expression}
    {tokens : List Token} (written : expression.Written level tokens) :
    ∃ front last, tokens = front ++ [last] ∧ last.endsOperand := by
  induction written with
  | literal value => exact ⟨[], number value, rfl, rfl⟩
  | binary infixed leftWritten rightWritten ihLeft ihRight =>
      rcases ihRight with ⟨front, last, rfl, ends⟩
      exact ⟨_, last, (List.append_assoc _ (operator infixed :: front) [last]).symm, ends⟩
  | marked suffixed written ih => exact ⟨_, mark suffixed, rfl, rfl⟩
  | call named written ih => exact ⟨function named :: openParen :: _, closeParen, rfl, rfl⟩
  | group written ih | parenthesized written ih => exact ⟨openParen :: _, closeParen, rfl, rfl⟩
  | loosened written ordered ih => exact ih

end Expression

end DecimalCalculator
