import DecimalCalculator.Proofs.Calculator.Preview
import DecimalCalculator.Proofs.Decimal.DoubleRounding
import DecimalCalculator.Proofs.Decimal.Scale
import DecimalCalculator.Proofs.Evaluation.Continuation

/-!
# The key of reciprocals and the quotient of one

The key of reciprocals writes a power with the exponent minus one behind the display. Dividing one
by the display is another way to ask for the same number, and rounds it in another way: a quotient
is rounded once, while a power rounds its base and the reciprocal to two further digits first.

The two give the same number unless a half keeps them apart, and this file says exactly when that is
so. Numbers whose reciprocal is not close to a half are safe, and no two reciprocals are further
apart than one unit of the last digit that is kept.
-/

namespace DecimalCalculator

open Decimal

variable {context : Context} {value power quotient : Decimal}

/-! ## Two ways to a reciprocal -/

namespace Decimal

/-- With the exponent one the loop of a power multiplies once. -/
theorem powerLoop_one (precision : ℕ) (base : Decimal) :
    powerLoop precision 1 one base = (one.mulTrimmed base).round precision := by
  have lastBit : 1 / 2 = 0 := rfl
  rw [powerLoop_of_pos one_ne_zero, if_pos lastBit]
  rfl

/-- A power with the exponent minus one is the reciprocal of the rounded base, rounded twice. -/
theorem exists_reciprocal_of_pow (raised : value.pow context (-1) = .ok power) :
    ∃ reciprocal : Decimal,
      RoundsTo (context.precision + 2) (value.round (context.precision + 2)).toRat⁻¹
        reciprocal.toRat ∧
      RoundsTo context.precision reciprocal.toRat power.toRat := by
  have passes := (pow_eq_ok_cases raised).resolve_left fun zero => by simp at zero
  have precision : powerPrecision context (-1) = context.precision + 2 := rfl
  have keeps : 0 < context.precision + 2 := Nat.succ_pos _
  have product := roundsTo_round (context.precision + 2)
    (one.mulTrimmed (value.round (context.precision + 2)))
  rw [toRat_mulTrimmed, toRat_one, one_mul] at product
  have kept := (roundsTo_round (context.precision + 2) value).again product keeps
  rw [passes.pow_eq, lastStep, if_pos (by decide), precision, Int.natAbs_neg, Int.natAbs_one,
    powerLoop_one] at raised
  rcases map_eq_ok.1 raised with ⟨reciprocal, divided, rfl⟩
  have rounds := roundsTo_div divided
  rw [toRat_one, one_div, kept] at rounds
  exact ⟨reciprocal, rounds, roundsTo_round context.precision reciprocal⟩

end Decimal

/-! ## Two texts for a reciprocal -/

/-- What is shown below a display that writes an expression and is no number is the value of the
expression, if it is no error. -/
theorem render_of_preview {expression : Expression} {level : Level} {display : String}
    (written : expression.WrittenIn level display) (nonempty : display ≠ "")
    (notNumber : Decimal.parse? display = none)
    (answered : (Preview.ofDisplay context display).text ≠ errorMarker) :
    ∃ result, expression.value context = .ok result ∧
      result.render context = .ok (Preview.ofDisplay context display).text := by
  have notIdle : display ≠ emptyDisplay := by
    rintro rfl
    cases notNumber
  rw [Preview.text_ofDisplay nonempty notIdle] at answered ⊢
  have loosest : Level.sum.rank ≤ level.rank := by cases level <;> decide
  rcases exists_isAnswerOf (written.loosened loosest) answered with ⟨result, literal, isAnswer⟩
  exact ⟨result, isAnswer.computed, isAnswer.rendered notNumber⟩

/-- The expression that the key of reciprocals makes of a number. -/
def raisedToMinusOne (value : Decimal) : Expression :=
  .binary .caret (.literal value) (.group (.literal one.neg))

/-- One divided by a number. -/
def oneOver (value : Decimal) : Expression :=
  .binary .slash (.literal one) (.literal value)

theorem value_raisedToMinusOne (context : Context) (value : Decimal) :
    (raisedToMinusOne value).value context = value.pow context (-1) :=
  rfl

theorem value_oneOver (context : Context) (value : Decimal) :
    (oneOver value).value context = one.div context.precision value :=
  rfl

section Texts

variable {text : String}

theorem numeral_one : Numeral "1".toList one :=
  .whole (by decide) (by decide)

theorem writtenIn_raisedToMinusOne (written : (Expression.literal value).WrittenIn .operand text) :
    (raisedToMinusOne value).WrittenIn .power (text ++ "^(-1)") := by
  have minusOne : (Expression.literal one.neg).WrittenIn .operand "-1" := .negative numeral_one
  have exponent := (minusOne.loosened (by decide : Level.sum.rank ≤ _)).group
  have raised := Expression.WrittenIn.binary .caret written
    (exponent.loosened (by decide : Level.power.rank ≤ _))
  rwa [String.append_assoc] at raised

theorem writtenIn_oneOver (written : (Expression.literal value).WrittenIn .operand text) :
    (oneOver value).WrittenIn .product ("1/" ++ text) :=
  .binary .slash (.loosened (.numeral numeral_one) (by decide)) (.loosened written (by decide))

theorem parse?_raisedToMinusOne (text : String) : Decimal.parse? (text ++ "^(-1)") = none :=
  parse?_eq_none_of_openParen (by simp)

theorem parse?_oneOver (text : String) : Decimal.parse? ("1/" ++ text) = none := by
  have slash : '/' ∈ ("1/" ++ text).toList := by simp
  exact parse?_eq_none_of_mem slash (by rw [IsPlainCharacter]; decide) (by decide)

end Texts

namespace Calculator

/-- The texts of the key of reciprocals and of the quotient of one are the same exactly where the
numbers are, wherever neither is an error. -/
theorem reciprocal_text_eq_iff {calculator : Calculator}
    (raised : value.pow calculator.context (-1) = .ok power)
    (divided : one.div calculator.context.precision value = .ok quotient)
    (written : (Expression.literal value).WrittenIn .operand calculator.display)
    (keyAnswered : (calculator.press .reciprocal).preview.text ≠ errorMarker)
    (answered : (Preview.ofDisplay calculator.context ("1/" ++ calculator.display)).text ≠
      errorMarker) :
    (calculator.press .reciprocal).preview.text =
      (Preview.ofDisplay calculator.context ("1/" ++ calculator.display)).text ↔
        power.SameNumber quotient := by
  have pressed : (calculator.press .reciprocal).preview =
      Preview.ofDisplay calculator.context (calculator.display ++ "^(-1)") := rfl
  rw [pressed] at keyAnswered ⊢
  rcases render_of_preview (writtenIn_raisedToMinusOne written) (by simp)
    (parse?_raisedToMinusOne _) keyAnswered with ⟨shownPower, powerValue, powerShown⟩
  rcases render_of_preview (writtenIn_oneOver written) (by simp) (parse?_oneOver _)
    answered with ⟨shownQuotient, quotientValue, quotientShown⟩
  rw [value_raisedToMinusOne, raised] at powerValue
  rw [value_oneOver, divided] at quotientValue
  cases powerValue
  cases quotientValue
  exact text_eq_iff powerShown quotientShown

/-- The key of reciprocals and the quotient of one agree exactly where no half keeps the reciprocals
apart: the halves at which the exact reciprocal goes up have to be those at which the reciprocal of
the rounded base goes up when halves are widened. They agree if the exact reciprocal is at least a
tenth of the unit away from all halves, and never differ by more than one unit. What is previewed,
if it is no error, is the same text exactly where they agree. -/
theorem reciprocal_agrees_iff (keeps : 0 < context.precision) (nonzero : ¬value.isZero)
    (raised : value.pow context (-1) = .ok power)
    (divided : one.div context.precision value = .ok quotient) :
    (∃ order : ℤ, HasOrder value.toRat⁻¹ order ∧
      (power.SameNumber quotient ↔ GoUpTogether ((10 : ℚ) ^ (order - context.precision))
        value.toRat⁻¹ (value.round (context.precision + 2)).toRat⁻¹) ∧
      ((∀ index : ℤ, (10 : ℚ) ^ (order - context.precision) / 10 ≤
          |value.toRat⁻¹ - (index + 1 / 2) * (10 : ℚ) ^ (order - context.precision)|) →
        power.SameNumber quotient) ∧
      |power.toRat - quotient.toRat| ≤ (10 : ℚ) ^ (order - context.precision)) ∧
      ∀ (calculator : Calculator) (text : String), calculator.context = context →
        calculator.display = text → (Expression.literal value).WrittenIn .operand text →
        (calculator.press .reciprocal).preview.text ≠ errorMarker →
        (Preview.ofDisplay context ("1/" ++ text)).text ≠ errorMarker →
        ((calculator.press .reciprocal).preview.text =
          (Preview.ofDisplay context ("1/" ++ text)).text ↔ power.SameNumber quotient) := by
  constructor
  · rcases exists_hasOrder (inv_ne_zero (mt toRat_eq_zero_iff.1 nonzero)) with ⟨order, hasOrder⟩
    have unit : (0 : ℚ) < 10 ^ (order - context.precision) := by positivity
    have base := roundsTo_round (context.precision + 2) value
    have close := abs_inv_sub_inv_le hasOrder.inDecade base
    have once := roundsTo_div divided
    rw [toRat_one, one_div] at once
    rcases exists_reciprocal_of_pow raised with ⟨reciprocal, working, twice⟩
    rcases exists_reciprocal_indices keeps hasOrder.inDecade base working twice once with
      ⟨second, first, powerMultiple, quotientMultiple, powerHalves, quotientHalves⟩
    have agree := eq_iff_goUpTogether quotientHalves powerHalves
    rw [← Int.cast_inj (α := ℚ), ← mul_left_inj' unit.ne', ← powerMultiple, ← quotientMultiple]
      at agree
    refine ⟨order, hasOrder, agree, ?_, ?_⟩
    · intro far
      exact agree.2 fun index => goesUpAt_iff_of_far unit close (far index)
    · have neighbours := le_add_one_of_close unit close quotientHalves powerHalves
      rw [powerMultiple, quotientMultiple, ← sub_mul, abs_mul, abs_of_pos unit, ← Int.cast_sub,
        ← Int.cast_abs]
      exact mul_le_of_le_one_left unit.le (by exact_mod_cast neighbours)
  · rintro calculator text rfl rfl written keyAnswered answered
    exact reciprocal_text_eq_iff raised divided written keyAnswered answered

/-- The reciprocal of a negative number, typed behind its sign: both texts are shown with all the
digits that are kept. -/
theorem reciprocal_agrees_iff_negative_third :
    (⟨-3, 0⟩ : Decimal).pow Context.default (-1) = .ok ⟨-3333333333333333, 16⟩ ∧
      one.div Context.default.precision ⟨-3, 0⟩ = .ok ⟨-3333333333333333, 16⟩ ∧
      ∀ scientific : Bool,
        ((ofKeys Context.default scientific [.character '-', .character '3']).press
          .reciprocal).preview.text = (Preview.ofDisplay Context.default "1/-3").text := by
  have raised : (⟨-3, 0⟩ : Decimal).pow Context.default (-1) = .ok ⟨-3333333333333333, 16⟩ := by
    decide +kernel
  have divided : one.div Context.default.precision ⟨-3, 0⟩ = .ok ⟨-3333333333333333, 16⟩ := by
    decide +kernel
  have three : Numeral "3".toList ⟨3, 0⟩ := .whole (by decide) (by decide)
  have written : (Expression.literal ⟨-3, 0⟩).WrittenIn .operand "-3" := .negative three
  refine ⟨raised, divided, ?_⟩
  intro scientific
  have texts := (reciprocal_agrees_iff (by decide) (by decide) raised divided).2
  exact (texts (ofKeys Context.default scientific [.character '-', .character '3']) "-3"
    (context_ofKeys ..) (by cases scientific <;> decide) written
    (by cases scientific <;> decide +kernel) (by decide +kernel)).2 (SameNumber.refl _)

/-- The reciprocal of two hundred and twenty-two goes on with 504 behind its last digit, a little
above the half. The two further digits of a power are 50, and the half they make of it goes to the
even digit below. -/
theorem reciprocal_agrees_ne :
    ∃ power quotient, (⟨222, 0⟩ : Decimal).pow Context.default (-1) = .ok power ∧
      one.div Context.default.precision ⟨222, 0⟩ = .ok quotient ∧
      ¬power.SameNumber quotient ∧
      (ofKeys Context.default false [.character '2', .character '2', .character '2',
        .reciprocal]).preview.text = "0.004504504504504504" ∧
      (ofKeys Context.default false [.character '1', .character '/', .character '2',
        .character '2', .character '2']).preview.text = "0.004504504504504505" := by
  refine ⟨⟨4504504504504504, 18⟩, ⟨4504504504504505, 18⟩, ?_, ?_, ?_, ?_, ?_⟩
  · decide +kernel
  · decide +kernel
  · norm_num [SameNumber, toRat]
  · decide +kernel
  · decide +kernel

end Calculator

end DecimalCalculator
