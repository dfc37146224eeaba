import DecimalCalculator.Evaluation
import DecimalCalculator.Proofs.ReversePolish.Conservation
import DecimalCalculator.Proofs.Token.Continuation
import Mathlib.Algebra.Order.BigOperators.Group.List
import Mathlib.Algebra.Order.Ring.Nat

/-!
# Weights of tokens

What an evaluation needs can often be counted token by token. A weight that counts nothing for
parentheses and unknown words, and for the other tokens no more than in proportion to their
characters, gives the tokens of a text no more than in proportion to its length together. Bringing
them into reverse Polish order only moves them.
-/

namespace DecimalCalculator.Token

/-- What all tokens of a list weigh. -/
def totalWeight (weight : Token → ℕ) (tokens : List Token) : ℕ := (tokens.map weight).sum

/-- A weight that is in proportion to the characters of a token. Parentheses and unknown words weigh
nothing, and the sign of a number adds nothing. -/
structure IsProportional (weight : Token → ℕ) (rate : ℕ) : Prop where
  number : ∀ {text value}, Decimal.ofChars? text = some value →
    weight (.number value) ≤ rate * text.length
  negative : ∀ value : Decimal, weight (.number value.neg) = weight (.number value)
  operator : ∀ infixed, weight (.operator infixed) ≤ rate
  mark : ∀ suffixed, weight (.mark suffixed) ≤ rate
  function : ∀ named, weight (.function named) ≤ rate
  openParen : weight openParen = 0
  closeParen : weight closeParen = 0
  unknown : ∀ name, weight (.unknown name) = 0

theorem totalWeight_cons (weight : Token → ℕ) (token : Token) (tokens : List Token) :
    totalWeight weight (token :: tokens) = weight token + totalWeight weight tokens := by
  rw [totalWeight, List.map_cons, List.sum_cons]
  rfl

def isParen (token : Token) : Bool := token.isOpenParen || token.isCloseParen

/-- Parentheses apart, reverse Polish order only moves tokens. -/
theorem filter_isParen_perm (tokens : List Token) :
    ((ReversePolish.ofTokens tokens).filter (!·.isParen)).Perm (tokens.filter (!·.isParen)) := by
  rw [List.perm_iff_count]
  intro token
  by_cases paren : token.isParen
  · have absent (others : List Token) : (others.filter (!·.isParen)).count token = 0 := by
      rw [List.count_eq_zero]
      intro member
      simpa [paren] using List.of_mem_filter member
    rw [absent, absent]
  · have kept (others : List Token) :
        (others.filter (!·.isParen)).count token = others.count token :=
      List.count_filter (by simpa using paren)
    have notOpen : token ≠ .openParen := by
      rintro rfl
      exact paren rfl
    have notClose : token ≠ .closeParen := by
      rintro rfl
      exact paren rfl
    rw [kept, kept, ReversePolish.ofTokens, ReversePolish.count_order notOpen notClose,
      List.count_nil, Nat.zero_add]

namespace IsProportional

variable {weight : Token → ℕ} {rate : ℕ}

theorem totalWeight_filter_isParen (proportional : IsProportional weight rate)
    (tokens : List Token) :
    totalWeight weight (tokens.filter (!·.isParen)) = totalWeight weight tokens := by
  induction tokens with
  | nil => rfl
  | cons token tokens ih =>
      rw [totalWeight_cons, ← ih]
      cases token with
      | openParen => exact (Nat.zero_add _).symm.trans (by rw [proportional.openParen]; rfl)
      | closeParen => exact (Nat.zero_add _).symm.trans (by rw [proportional.closeParen]; rfl)
      | number _ | operator _ | mark _ | function _ | unknown _ =>
          exact totalWeight_cons weight _ _

theorem totalWeight_ofTokens (proportional : IsProportional weight rate) (tokens : List Token) :
    totalWeight weight (ReversePolish.ofTokens tokens) = totalWeight weight tokens := by
  rw [← proportional.totalWeight_filter_isParen, ← proportional.totalWeight_filter_isParen tokens]
  exact ((filter_isParen_perm tokens).map weight).sum_eq

theorem weight_le_of_spells (proportional : IsProportional weight rate) {token : Token}
    {lexeme : Lexeme} (spells : Spells token lexeme) :
    weight token ≤ rate * lexeme.length := by
  cases spells with
  | number numeral => exact proportional.number numeral.ofChars?_eq
  | operator infixed =>
      exact (proportional.operator _).trans
        (Nat.le_mul_of_pos_right rate (by cases infixed <;> decide))
  | mark suffixed =>
      exact (proportional.mark _).trans
        (Nat.le_mul_of_pos_right rate (by cases suffixed <;> decide))
  | function named =>
      exact (proportional.function _).trans
        (Nat.le_mul_of_pos_right rate (by cases named <;> decide))
  | openParen =>
      rw [proportional.openParen]
      exact Nat.zero_le _
  | closeParen =>
      rw [proportional.closeParen]
      exact Nat.zero_le _

theorem weight_ofLexeme_le (proportional : IsProportional weight rate) (lexeme : Lexeme) :
    weight (ofLexeme lexeme) ≤ rate * lexeme.length := by
  rcases spells_ofLexeme lexeme with ⟨value, isNumber⟩ | isUnknown | spells
  · rw [isNumber]
    exact proportional.number (ofChars?_of_ofLexeme isNumber)
  · rw [isUnknown, proportional.unknown]
    exact Nat.zero_le _
  · exact proportional.weight_le_of_spells spells

theorem totalWeight_ofLexemes_le (proportional : IsProportional weight rate) (opening : Bool)
    (lexemes : List Lexeme) :
    totalWeight weight (ofLexemes opening lexemes) ≤ rate * lexemes.flatten.length := by
  fun_induction ofLexemes opening lexemes with
  | case1 => exact Nat.zero_le _
  | case2 opening lexeme =>
      have bounded := proportional.weight_ofLexeme_le lexeme
      simpa [totalWeight] using bounded
  | case3 opening sign next rest value signed ih =>
      have bounded : weight (.number value) ≤ rate * next.length := by
        rcases exists_of_signedNumber? signed with ⟨magnitude, -, read, rfl⟩
        rw [proportional.negative]
        exact proportional.number read
      rw [totalWeight_cons, List.flatten_cons, List.flatten_cons, List.length_append,
        List.length_append, Nat.mul_add, Nat.mul_add]
      omega
  | case4 opening lexeme next rest unsigned ih =>
      have bounded := proportional.weight_ofLexeme_le lexeme
      rw [totalWeight_cons, List.flatten_cons, List.length_append, Nat.mul_add]
      omega

theorem totalWeight_dropPendingOperator_le (weight : Token → ℕ) (tokens : List Token) :
    totalWeight weight (dropPendingOperator tokens) ≤ totalWeight weight tokens := by
  rw [dropPendingOperator]
  split
  · rw [totalWeight, totalWeight]
    exact ((List.dropLast_sublist tokens).map weight).sum_le_sum fun _ _ => Nat.zero_le _
  · exact le_refl _

/-- The tokens of a text, in reverse Polish order, weigh no more than in proportion to its
length. -/
theorem totalWeight_reversePolish_le (proportional : IsProportional weight rate) (text : String) :
    totalWeight weight (ReversePolish.ofTokens (expressionTokens text)) ≤ rate * text.length := by
  have kept : (Lexeme.split text.toList).flatten.length ≤ text.length := by
    rw [Lexeme.flatten_split, ← String.length_toList]
    exact List.length_filter_le _ _
  rw [proportional.totalWeight_ofTokens]
  calc
    totalWeight weight (expressionTokens text) ≤ totalWeight weight (scan text) :=
      totalWeight_dropPendingOperator_le weight _
    _ ≤ rate * (Lexeme.split text.toList).flatten.length :=
      proportional.totalWeight_ofLexemes_le _ _
    _ ≤ rate * text.length := Nat.mul_le_mul_left _ kept

end IsProportional

end DecimalCalculator.Token
