import DecimalCalculator.Proofs.Evaluation.Answer
import DecimalCalculator.Proofs.Machine.Words
import DecimalCalculator.Proofs.Token.Weight

/-!
# Which texts a machine gets through

A word that does not hold its number would be reached by adding scales up, or numbers of digits.
This file bounds the words of a run by what the values on the stack and the tokens still to come can
add to them: every token has a credit, and a step never computes a word beyond what is on the stack
and the credit of its token, nor leaves more behind. For a text all credits together are in
proportion to its length, so that a text of some thousand characters stays far away from the largest
words.

A zero with a scale other than zero is the exception. The bound on the order of a power does not
apply to it, so a power multiplies its scale by the exponent, and two such powers, one of the other,
leave the words of 64 bits.
-/

namespace DecimalCalculator

open Decimal (zero extent scaleGapLimit powerScaleBound)

/-! ## What is on the stack, and what may be added -/

namespace ReversePolish

/-- Whether a step raises a zero whose scale is not zero. -/
def raisesScaledZero (stack : List Decimal) (token : Token) : Bool :=
  let base := stack.tail.head?.getD zero
  token == .operator .caret && base.isZero && base != zero

/-- Whether a run raises no zero whose scale is not zero. -/
def avoidsScaledZeros (context : Context) (stack : List Decimal) : List Token → Bool
  | [] => true
  | token :: rest =>
    !raisesScaledZero stack token &&
      match step context stack token with
      | .ok next => avoidsScaledZeros context next rest
      | .error _ => true

/-- The sum of a measure over all values on a stack. -/
def total (measure : Decimal → ℕ) (stack : List Decimal) : ℕ := (stack.map measure).sum

theorem total_cons (measure : Decimal → ℕ) (value : Decimal) (stack : List Decimal) :
    total measure (value :: stack) = measure value + total measure stack := by
  rw [total, List.map_cons, List.sum_cons]
  rfl

/-- The left operand and the values below it, where a zero stands in for a missing operand. -/
theorem measure_head_add_total_tail_le (measure : Decimal → ℕ) (stack : List Decimal) :
    measure (stack.head?.getD zero) + total measure stack.tail ≤
      total measure stack + measure zero := by
  cases stack with
  | nil => exact (Nat.add_comm _ _).le
  | cons value stack =>
      rw [total_cons]
      exact Nat.le_add_right _ _

end ReversePolish

/-- What any operation but a power can add to the extents of its operands, and any operation to
their digits. -/
def operationBound : ℕ := 250000

/-- What an operator can add to the extents of its operands. -/
def Operator.bound : Operator → ℕ
  | caret => powerScaleBound + operationBound
  | plus | minus | star | cross | slash => operationBound

namespace Token

/-- What a token can add to the extents on the stack. An operator also pays for a zero that stands
in for a missing operand. -/
def credit : Token → ℕ
  | number value => value.extent
  | operator infixed => infixed.bound + zero.extent
  | mark _ | function _ => operationBound
  | openParen | closeParen | unknown _ => 0

/-- What a token can add to the digits on the stack. -/
def digitCredit : Token → ℕ
  | number value => value.digits
  | operator _ => operationBound + zero.digits
  | mark _ | function _ => operationBound
  | openParen | closeParen | unknown _ => 0

/-- What one character can add to the credits of a text. -/
def characterCredit : ℕ := powerScaleBound + 2 * tenTo Decimal.exponentDigits

def characterDigitCredit : ℕ := operationBound + zero.digits

theorem isProportional_credit : IsProportional credit characterCredit where
  number := by
    intro text value read
    rcases Decimal.ofChars?_bounds read with ⟨positive, digits, scale⟩
    have limits : characterCredit = 2000002000000000 ∧ tenTo Decimal.exponentDigits = 1000000000 :=
      ⟨rfl, rfl⟩
    rw [credit, extent, limits.1]
    omega
  negative := Decimal.extent_neg
  operator infixed := by cases infixed <;> decide
  mark suffixed := by cases suffixed <;> decide
  function named := by cases named <;> decide
  openParen := rfl
  closeParen := rfl
  unknown _ := rfl

theorem isProportional_digitCredit : IsProportional digitCredit characterDigitCredit where
  number := by
    intro text value read
    have digits := (Decimal.ofChars?_bounds read).2.1
    exact digits.trans (Nat.le_mul_of_pos_left _ (by decide))
  negative := Decimal.digits_neg
  operator infixed := by cases infixed <;> decide
  mark suffixed := by cases suffixed <;> decide
  function named := by cases named <;> decide
  openParen := rfl
  closeParen := rfl
  unknown _ := rfl

end Token

/-- The contexts for which the credits are enough. -/
structure Context.IsModerate (context : Context) : Prop where
  keeps : 0 < context.precision
  precise : context.precision ≤ maximalPrecision
  factorials : context.factorialLimit ≤ default.factorialLimit

theorem Context.isModerate_ofPrecision (precision : ℕ) :
    (Context.ofPrecision precision).IsModerate :=
  ⟨lt_min (lt_max_of_lt_right Nat.one_pos) (by decide), min_le_right _ _, le_refl _⟩

/-! ## One step -/

theorem UnaryFunction.extent_le {function : UnaryFunction} {operand result : Decimal}
    (applied : function.apply operand = .ok result) : result.extent ≤ operationBound := by
  rw [apply] at applied
  split at applied
  · cases applied
  · exact (Decimal.extent_ofFloat_le applied).trans (by decide)

theorem Decimal.digits_le_extent (value : Decimal) : value.digits ≤ value.extent := by
  rw [extent]
  omega

section Step

variable {context : Context} {stack : List Decimal} {token : Token} {word : Word}
variable {left right operand result : Decimal}
variable (moderate : context.IsModerate)

include moderate

/-- What an operator computes is bounded by its operands. -/
theorem Operator.words_within (operator : Operator)
    (unscaled : operator = .caret → left.isZero → left = zero)
    (member : word ∈ operator.words context left right) :
    word.Within (left.extent + right.extent + operator.bound)
      (left.digits + right.digits + operationBound) := by
  have precise := moderate.precise
  have limits : Context.maximalPrecision = 200 ∧ operationBound = 250000 := ⟨rfl, rfl⟩
  cases operator with
  | plus | minus => cases member
  | star | cross =>
      exact (Decimal.mulWords_within member).mono (Nat.le_add_right _ _) (Nat.zero_le _)
  | slash =>
      refine (Decimal.divWords_within member).mono ?_ ?_
      · simp only [bound]
        omega
      · omega
  | caret =>
      simp only [words] at member
      split at member
      · cases member
      · refine (Decimal.powWords_within moderate.keeps precise (unscaled rfl) member).mono ?_ ?_
        · simp only [bound]
          omega
        · omega

/-- The value of an operator is bounded by its operands. -/
theorem Operator.apply_bounds (operator : Operator)
    (unscaled : operator = .caret → left.isZero → left = zero)
    (applied : operator.apply context left right = .ok result) :
    result.extent ≤ left.extent + right.extent + operator.bound ∧
      result.digits ≤ left.digits + right.digits + operationBound := by
  have keeps := moderate.keeps
  have precise := moderate.precise
  have limits : Context.maximalPrecision = 200 ∧ scaleGapLimit = 100000 ∧
    operationBound = 250000 := ⟨rfl, rfl, rfl⟩
  cases operator with
  | plus =>
      have extents := Decimal.extent_add_le applied
      have digits := Decimal.digits_add_le applied
      simp only [bound]
      omega
  | minus =>
      have extents := Decimal.extent_add_le applied
      have digits := Decimal.digits_add_le applied
      rw [Decimal.extent_neg] at extents
      rw [Decimal.digits_neg] at digits
      simp only [bound]
      omega
  | star | cross =>
      cases applied
      have extents := Decimal.extent_mul_le left right
      have digits := Decimal.digits_mul_le left right
      omega
  | slash =>
      have extents := Decimal.extent_div_le keeps applied
      have digits := (Decimal.div_bounds keeps applied).1
      simp only [bound]
      omega
  | caret =>
      simp only [apply] at applied
      split at applied
      · cases applied
      · have extents := Decimal.extent_pow_le keeps precise (unscaled rfl) applied
        have digits := ((Decimal.powScales_bounds keeps precise (unscaled rfl)).2 _ applied).1
        simp only [bound]
        omega

theorem Mark.words_within (mark : Mark) (member : word ∈ mark.words context operand) :
    word.Within (operand.extent + operationBound) (operand.digits + operationBound) := by
  have precise := moderate.precise
  have limits : Context.maximalPrecision = 200 ∧ operationBound = 250000 ∧
    (Decimal.ofInt 100).extent = 6 ∧ (Decimal.ofInt 100).digits = 3 := ⟨rfl, rfl, rfl, rfl⟩
  cases mark with
  | factorial => cases member
  | percent => exact (Decimal.divWords_within member).mono (by omega) (by omega)

theorem Mark.apply_bounds (mark : Mark) (applied : mark.apply context operand = .ok result) :
    result.extent ≤ operand.extent + operationBound ∧
      result.digits ≤ operand.digits + operationBound := by
  have keeps := moderate.keeps
  have precise := moderate.precise
  have limits : Context.maximalPrecision = 200 ∧ Context.default.factorialLimit = 3000 ∧
    operationBound = 250000 ∧ (Decimal.ofInt 100).extent = 6 := ⟨rfl, rfl, rfl, rfl⟩
  cases mark with
  | factorial =>
      have limited := moderate.factorials
      have extents := Decimal.extent_factorial_le applied
        (limited.trans_lt (by decide : Context.default.factorialLimit < tenTo 4))
      have digits := result.digits_le_extent
      omega
  | percent =>
      have extents := Decimal.extent_div_le keeps applied
      have digits := (Decimal.div_bounds keeps applied).1
      omega

omit moderate in
theorem UnaryFunction.words_within (function : UnaryFunction)
    (member : word ∈ function.words operand) :
    word.Within (operand.extent + operationBound) (operand.digits + operationBound) := by
  rw [words] at member
  split at member
  · cases member
  · exact (Decimal.conversionWords_within member).mono
      (Nat.add_le_add_left (by decide) _) (Nat.zero_le _)

namespace ReversePolish

omit moderate in
/-- The base of a power, if no zero with a scale is raised. -/
theorem eq_zero_of_not_raisesScaledZero {operator : Operator} {rest : List Decimal}
    (unscaled : raisesScaledZero (operand :: rest) (.operator operator) = false) :
    operator = .caret → (rest.head?.getD zero).isZero → rest.head?.getD zero = zero := by
  rintro rfl isZero
  simpa [raisesScaledZero, isZero] using unscaled

/-- A step computes no word beyond what is on the stack and the credits of its token. -/
theorem stepWords_within (unscaled : raisesScaledZero stack token = false)
    (member : word ∈ stepWords context stack token) :
    word.Within (total extent stack + token.credit)
      (total Decimal.digits stack + token.digitCredit) := by
  cases token with
  | number value =>
      have own : word = .scale value.scale := by
        cases stack <;> exact List.mem_singleton.1 member
      rw [own]
      simp only [Word.Within, Token.credit, extent]
      omega
  | operator operator =>
      cases stack with
      | nil => cases member
      | cons right rest =>
          have within := operator.words_within moderate (eq_zero_of_not_raisesScaledZero unscaled)
            member
          have extents := measure_head_add_total_tail_le extent rest
          have digits := measure_head_add_total_tail_le Decimal.digits rest
          simp only [total_cons, Token.credit, Token.digitCredit]
          exact within.mono (by omega) (by omega)
  | mark mark =>
      cases stack with
      | nil => cases member
      | cons operand rest =>
          simp only [total_cons, Token.credit, Token.digitCredit]
          exact (mark.words_within moderate member).mono (by omega) (by omega)
  | function function =>
      cases stack with
      | nil => cases member
      | cons operand rest =>
          simp only [total_cons, Token.credit, Token.digitCredit]
          exact (function.words_within member).mono (by omega) (by omega)
  | openParen | closeParen | unknown text => cases stack <;> cases member

/-- A step leaves no more behind than what is on the stack and the credits of its token. -/
theorem step_bounds {next : List Decimal} (unscaled : raisesScaledZero stack token = false)
    (succeeded : step context stack token = .ok next) :
    total extent next ≤ total extent stack + token.credit ∧
      total Decimal.digits next ≤ total Decimal.digits stack + token.digitCredit := by
  cases token with
  | number value =>
      have pushed : value :: stack = next := by
        cases stack <;> exact Except.ok.inj succeeded
      rw [← pushed, total_cons, total_cons, Token.credit, Token.digitCredit]
      omega
  | operator operator =>
      cases stack with
      | nil => cases succeeded
      | cons right rest =>
          rcases map_eq_ok.1 succeeded with ⟨result, applied, rfl⟩
          have bounds := operator.apply_bounds moderate (eq_zero_of_not_raisesScaledZero unscaled)
            applied
          have extents := measure_head_add_total_tail_le extent rest
          have digits := measure_head_add_total_tail_le Decimal.digits rest
          simp only [total_cons, Token.credit, Token.digitCredit]
          omega
  | mark mark =>
      cases stack with
      | nil => cases succeeded
      | cons operand rest =>
          rcases map_eq_ok.1 succeeded with ⟨result, applied, rfl⟩
          have bounds := mark.apply_bounds moderate applied
          simp only [total_cons, Token.credit, Token.digitCredit]
          omega
  | function function =>
      cases stack with
      | nil => cases succeeded
      | cons operand rest =>
          rcases map_eq_ok.1 succeeded with ⟨result, applied, rfl⟩
          have extents := UnaryFunction.extent_le applied
          have digits := result.digits_le_extent
          simp only [total_cons, Token.credit, Token.digitCredit]
          omega
  | openParen | closeParen | unknown text => cases stack <;> cases succeeded

/-- The credits of the tokens to come pay for all words of a run. -/
theorem runWords_within {tokens : List Token} (avoids : avoidsScaledZeros context stack tokens)
    (member : word ∈ runWords context stack tokens) :
    word.Within (total extent stack + Token.totalWeight Token.credit tokens)
      (total Decimal.digits stack + Token.totalWeight Token.digitCredit tokens) := by
  induction tokens generalizing stack with
  | nil => cases member
  | cons token rest ih =>
      rw [avoidsScaledZeros, Bool.and_eq_true_iff, Bool.not_eq_true'] at avoids
      rcases avoids with ⟨unscaled, avoids⟩
      rw [Token.totalWeight_cons, Token.totalWeight_cons]
      rcases List.mem_append.1 member with now | later
      · exact (stepWords_within moderate unscaled now).mono (by omega) (by omega)
      · cases stepped : step context stack token with
        | error cause =>
            rw [stepped] at later
            cases later
        | ok next =>
            rw [stepped] at later avoids
            have bounds := step_bounds moderate unscaled stepped
            exact (ih avoids later).mono (by omega) (by omega)

end ReversePolish

end Step

/-! ## Texts -/

namespace Machine

variable {precision : ℕ} {text : String}

/-- The words of a text are in proportion to its length. -/
theorem evaluationWords_within {word : Word}
    (avoids : ReversePolish.avoidsScaledZeros (Context.ofPrecision precision) []
      (ReversePolish.ofTokens (expressionTokens text)))
    (member : word ∈ evaluationWords (Context.ofPrecision precision) text) :
    word.Within (Token.characterCredit * text.length)
      (Token.characterDigitCredit * text.length) := by
  have within := ReversePolish.runWords_within (Context.isModerate_ofPrecision precision) avoids
    (mem_runWords_of_mem_evaluationWords member)
  have empty (measure : Decimal → ℕ) : ReversePolish.total measure [] = 0 := rfl
  rw [empty, empty, Nat.zero_add, Nat.zero_add] at within
  exact within.mono (Token.isProportional_credit.totalWeight_reversePolish_le text)
    (Token.isProportional_digitCredit.totalWeight_reversePolish_le text)

/-- A machine gets through every text of no more than four thousand characters, if no zero with a
scale is raised on the way: all scales, all numbers of digits and all exponents that the evaluation
computes fit into their words, and the result is the exact one. -/
theorem evaluate_of_avoidsScaledZeros (short : text.length ≤ 4000)
    (avoids : ReversePolish.avoidsScaledZeros (Context.ofPrecision precision) []
      (ReversePolish.ofTokens (expressionTokens text))) :
    (∀ word ∈ evaluationWords (Context.ofPrecision precision) text, word.fits) ∧
      evaluate (Context.ofPrecision precision) text =
        .ok (DecimalCalculator.evaluate (Context.ofPrecision precision) text) := by
  have fits : ∀ word ∈ evaluationWords (Context.ofPrecision precision) text, word.fits := by
    intro word member
    have extents : Token.characterCredit * text.length ≤ Token.characterCredit * 4000 :=
      Nat.mul_le_mul_left _ short
    have digits : Token.characterDigitCredit * text.length ≤ Token.characterDigitCredit * 4000 :=
      Nat.mul_le_mul_left _ short
    exact (evaluationWords_within avoids member).fits (extents.trans_lt (by decide))
      (digits.trans_lt (by decide))
  exact ⟨fits, evaluate_eq_ok_iff.2 ⟨fits, rfl⟩⟩

theorem evaluate_of_avoidsScaledZeros_power :
    "(1/3)^(-7)x2.5".length ≤ 4000 ∧
      ReversePolish.avoidsScaledZeros (Context.ofPrecision 16) []
        (ReversePolish.ofTokens (expressionTokens "(1/3)^(-7)x2.5")) ∧
      evaluate (Context.ofPrecision 16) "(1/3)^(-7)x2.5" =
        .ok (DecimalCalculator.evaluate (Context.ofPrecision 16) "(1/3)^(-7)x2.5") :=
  ⟨by decide, by decide +kernel,
    (evaluate_of_avoidsScaledZeros (by decide) (by decide +kernel)).2⟩

/-- A scale leaves its word at a power of a power of zero. -/
theorem not_scales_fit :
    ¬∀ text scale, Word.scale scale ∈ evaluationWords Context.default text →
      -(twoTo 63 : ℤ) ≤ scale ∧ scale < twoTo 63 := by
  intro fits
  rcases evaluate_eq_error evaluate_raised_zero with ⟨member, unfit⟩
  exact unfit (by simpa [Word.fits] using fits _ _ member)

end Machine

end DecimalCalculator
