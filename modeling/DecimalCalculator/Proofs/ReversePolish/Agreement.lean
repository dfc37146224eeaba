import DecimalCalculator.Proofs.Decimal.RoundTrip
import DecimalCalculator.Proofs.Decimal.SameNumber
import DecimalCalculator.Proofs.Machine.Run

/-!
# Runs on numbers written in different ways

A run sees its numbers as they are written. If some of them are written differently, its results
agree nevertheless: they are the same text, or have the same cause. Excesses are apart, because a
bound may concern the writing and be exceeded by one decimal of a number and not by another. Where
one of the runs exceeds a bound, nothing is said about the other.

Agreement is passed on by every step. The two stacks have the same height and hold decimals of the
same numbers at the same places. Functions are left out: they compute on binary numbers, which are
reached from a decimal by its writing.

The words that a machine computes do depend on the writing. Both runs have to get through without
leaving a word, also one that counts digits: a precision close to the largest word of 64 bits leaves
no room for the digits of a divisor.
-/

namespace DecimalCalculator

variable {α β γ δ : Type}

/-- How results compare that come from the same numbers: they have related values or the same
cause, or one of them is an excess. -/
inductive Agree (related : α → β → Prop) :
    Except CalculationError α → Except CalculationError β → Prop
  | values {value : α} {other : β} (holds : related value other) :
      Agree related (.ok value) (.ok other)
  | causes (cause : CalculationError) : Agree related (.error cause) (.error cause)
  | leftExcess (bound : Excess) (result : Except CalculationError β) :
      Agree related (.error (.excess bound)) result
  | rightExcess (bound : Excess) (result : Except CalculationError α) :
      Agree related result (.error (.excess bound))

namespace Agree

variable {related : α → β → Prop} {relatedNext : γ → δ → Prop}
variable {left : Except CalculationError α} {right : Except CalculationError β}

theorem of_eq {related : α → α → Prop} (reflexive : ∀ value, related value value)
    (result : Except CalculationError α) : Agree related result result := by
  cases result with
  | ok value => exact .values (reflexive value)
  | error cause => exact .causes cause

theorem bind {leftNext : α → Except CalculationError γ} {rightNext : β → Except CalculationError δ}
    (agree : Agree related left right)
    (next : ∀ {value other}, related value other →
      Agree relatedNext (leftNext value) (rightNext other)) :
    Agree relatedNext (left.bind leftNext) (right.bind rightNext) := by
  cases agree with
  | values holds => exact next holds
  | causes cause => exact .causes cause
  | leftExcess bound => exact .leftExcess bound _
  | rightExcess bound => exact .rightExcess bound _

theorem map {leftNext : α → γ} {rightNext : β → δ} (agree : Agree related left right)
    (next : ∀ {value other}, related value other →
      relatedNext (leftNext value) (rightNext other)) :
    Agree relatedNext (left.map leftNext) (right.map rightNext) := by
  cases agree with
  | values holds => exact .values (next holds)
  | causes cause => exact .causes cause
  | leftExcess bound => exact .leftExcess bound _
  | rightExcess bound => exact .rightExcess bound _

/-- A bound may be exceeded on one side only. -/
theorem guarded {exceeded otherExceeded : Prop} [Decidable exceeded] [Decidable otherExceeded]
    {bound otherBound : Excess} (agree : Agree related left right) :
    Agree related (if exceeded then .error (.excess bound) else left)
      (if otherExceeded then .error (.excess otherBound) else right) := by
  split
  · exact .leftExcess bound _
  split
  · exact .rightExcess otherBound _
  · exact agree

theorem of_ok {value : α} {other : β} (agree : Agree related (.ok value) (.ok other)) :
    related value other := by
  cases agree with
  | values holds => exact holds

/-- Results that agree and are no excesses are the same. -/
theorem eq_of_bounded {left right : Except CalculationError α} (agree : Agree Eq left right)
    (bounded : ∀ bound, left ≠ .error (.excess bound))
    (otherBounded : ∀ bound, right ≠ .error (.excess bound)) : left = right := by
  cases agree with
  | values same => rw [same]
  | causes cause => rfl
  | leftExcess bound => exact absurd rfl (bounded bound)
  | rightExcess bound => exact absurd rfl (otherBounded bound)

end Agree

/-! ## Operations -/

namespace Decimal

variable {context : Context} {value other left otherLeft right otherRight : Decimal}

theorem agree_add (sameLeft : SameNumber left otherLeft)
    (sameRight : SameNumber right otherRight) :
    Agree SameNumber (left.add right) (otherLeft.add otherRight) := by
  cases added : left.add right with
  | error cause =>
      rw [add_cause added]
      exact .leftExcess _ _
  | ok total =>
      cases otherAdded : otherLeft.add otherRight with
      | error cause =>
          rw [add_cause otherAdded]
          exact .rightExcess _ _
      | ok otherTotal =>
          apply Agree.values
          rw [SameNumber, toRat_add added, toRat_add otherAdded, sameLeft, sameRight]

theorem agree_div (sameLeft : SameNumber left otherLeft)
    (sameRight : SameNumber right otherRight) (precision : ℕ) :
    Agree SameNumber (left.div precision right) (otherLeft.div precision otherRight) := by
  by_cases zero : right.isZero
  · have otherZero : otherRight.isZero := sameRight.isZero_eq ▸ zero
    rw [div, if_pos zero, div, if_pos otherZero]
    exact .causes _
  · have otherNonzero : ¬otherRight.isZero := sameRight.isZero_eq ▸ zero
    rcases exists_div zero left precision with ⟨quotient, divided⟩
    rcases exists_div otherNonzero otherLeft precision with ⟨otherQuotient, otherDivided⟩
    have rounds := roundsTo_div divided
    rw [sameLeft, sameRight] at rounds
    rw [divided, otherDivided]
    exact .values (rounds.unique (roundsTo_div otherDivided))

theorem agree_pow (same : SameNumber value other) (exponent : ℤ) :
    Agree SameNumber (value.pow context exponent) (other.pow context exponent) := by
  simp only [pow]
  split
  · exact .values (.refl one)
  split
  · exact .causes _
  apply Agree.guarded
  have power := (SameNumber.refl one).powerLoop (same.round (powerPrecision context exponent))
    (powerPrecision context exponent) exponent.natAbs
  split
  next negative =>
    apply (agree_div (.refl one) power _).map
    intro reciprocal otherReciprocal sameReciprocal
    exact sameReciprocal.round context.precision
  next positive => exact .values (power.round context.precision)

theorem agree_render (same : SameNumber value other) :
    Agree Eq (value.render context) (other.render context) := by
  cases rendered : value.render context with
  | error cause =>
      rw [render_cause rendered]
      exact .leftExcess _ _
  | ok text =>
      cases otherRendered : other.render context with
      | error cause =>
          rw [render_cause otherRendered]
          exact .rightExcess _ _
      | ok otherText => exact .values ((text_eq_iff rendered otherRendered).2 same)

end Decimal

open Decimal (SameNumber)

variable {context : Context}

theorem Operator.agree_apply (operator : Operator) {left otherLeft right otherRight : Decimal}
    (sameLeft : SameNumber left otherLeft) (sameRight : SameNumber right otherRight) :
    Agree SameNumber (operator.apply context left right)
      (operator.apply context otherLeft otherRight) := by
  cases operator with
  | plus => exact Decimal.agree_add sameLeft sameRight
  | minus => exact Decimal.agree_add sameLeft sameRight.neg
  | star | cross => exact .values (sameLeft.mul sameRight)
  | slash => exact Decimal.agree_div sameLeft sameRight context.precision
  | caret =>
      simp only [apply, sameRight.integerPart?_eq]
      split
      · exact .causes _
      · exact Decimal.agree_pow sameLeft _

theorem Mark.agree_apply (mark : Mark) {operand other : Decimal}
    (same : SameNumber operand other) :
    Agree SameNumber (mark.apply context operand) (mark.apply context other) := by
  cases mark with
  | factorial =>
      simp only [apply, same.factorial_eq]
      exact .of_eq .refl _
  | percent => exact Decimal.agree_div same (.refl _) context.precision

/-! ## Runs -/

/-- Whether two tokens are decimals of one number, or the same token and no function. -/
inductive SameToken : Token → Token → Prop
  | number {value other : Decimal} (same : SameNumber value other) :
      SameToken (.number value) (.number other)
  | same {token : Token} (noFunction : ¬token.isFunction) : SameToken token token

namespace ReversePolish

variable {stack otherStack : List Decimal} {tokens others : List Token}

theorem agree_step {token other : Token} (sameToken : SameToken token other)
    (sameStack : List.Forall₂ SameNumber stack otherStack) :
    Agree (List.Forall₂ SameNumber) (step context stack token)
      (step context otherStack other) := by
  cases sameToken with
  | number same => exact .values (.cons same sameStack)
  | same noFunction =>
      cases sameStack with
      | nil =>
          refine .of_eq (fun stack => ?_) _
          exact List.forall₂_same.2 fun value _ => .refl value
      | @cons value other rest otherRest same sameRest =>
          cases token with
          | number literal => exact .values (.cons (.refl literal) (.cons same sameRest))
          | operator operator =>
              have left : SameNumber (rest.head?.getD Decimal.zero)
                  (otherRest.head?.getD Decimal.zero) := by
                cases sameRest with
                | nil => exact .refl Decimal.zero
                | cons sameHead => exact sameHead
              have tail : List.Forall₂ SameNumber rest.tail otherRest.tail := by
                cases sameRest with
                | nil => exact .nil
                | cons _ sameTail => exact sameTail
              exact (operator.agree_apply left same).map fun result => .cons result tail
          | mark mark => exact (mark.agree_apply same).map fun result => .cons result sameRest
          | function function => exact absurd rfl noFunction
          | openParen | closeParen | unknown => exact .causes _

theorem agree_runFrom (sameTokens : List.Forall₂ SameToken tokens others)
    (sameStack : List.Forall₂ SameNumber stack otherStack) :
    Agree (List.Forall₂ SameNumber) (runFrom context stack tokens)
      (runFrom context otherStack others) := by
  induction sameTokens generalizing stack otherStack with
  | nil => exact .values sameStack
  | cons sameToken sameTokens ih => exact (agree_step sameToken sameStack).bind ih

theorem agree_renderBottom (sameStack : List.Forall₂ SameNumber stack otherStack) :
    Agree Eq (renderBottom context stack) (renderBottom context otherStack) := by
  have bottoms : List.Forall₂ SameNumber stack.reverse otherStack.reverse :=
    List.rel_reverse sameStack
  rw [renderBottom, renderBottom, ← List.head?_reverse, ← List.head?_reverse]
  generalize stack.reverse = bottom at bottoms ⊢
  generalize otherStack.reverse = otherBottom at bottoms ⊢
  cases bottoms with
  | nil => exact .values rfl
  | cons same => exact Decimal.agree_render same

/-- Runs of tokens that differ only in how their numbers are written agree. -/
theorem agree_run (sameTokens : List.Forall₂ SameToken tokens others) :
    Agree Eq (run context tokens) (run context others) :=
  (agree_runFrom sameTokens .nil).bind agree_renderBottom

end ReversePolish

namespace Machine

variable {tokens others : List Token}

/-- The way in which its numbers are written does not reach the outcome of a run. If all words of
two runs fit whose tokens differ in nothing else, both end with the same text or fail with the same
cause, unless one of them exceeds a bound. -/
theorem run_eq_of_sameTokens (sameTokens : List.Forall₂ SameToken tokens others)
    (fits : ∀ word ∈ ReversePolish.runWords context [] tokens, word.fits)
    (otherFits : ∀ word ∈ ReversePolish.runWords context [] others, word.fits)
    (bounded : ∀ bound, run context tokens ≠ .ok (.error (.excess bound)))
    (otherBounded : ∀ bound, run context others ≠ .ok (.error (.excess bound))) :
    ∃ outcome, run context tokens = .ok outcome ∧ run context others = .ok outcome := by
  have ran : run context tokens = .ok (ReversePolish.run context tokens) :=
    run_eq_ok_iff.2 ⟨fits, rfl⟩
  have otherRan : run context others = .ok (ReversePolish.run context others) :=
    run_eq_ok_iff.2 ⟨otherFits, rfl⟩
  have same : ReversePolish.run context tokens = ReversePolish.run context others := by
    apply (ReversePolish.agree_run sameTokens).eq_of_bounded
    · intro bound exceeded
      exact bounded bound (by rw [ran, exceeded])
    · intro bound exceeded
      exact otherBounded bound (by rw [otherRan, exceeded])
  exact ⟨_, ran, same ▸ otherRan⟩

/-- Two ways to write a quotient that is then raised to a negative power. The dividend has a zero at
the end in one of them, the divisor has a negative scale in the other one, and the exponent is cut
to an integer in both. -/
theorem run_eq_of_sameTokens_power :
    run Context.default [.number ⟨150, 2⟩, .number ⟨1000, 0⟩, .operator .slash,
        .number ⟨-35, 1⟩, .operator .caret] = .ok (.ok "296296296.2962963") ∧
      run Context.default [.number ⟨15, 1⟩, .number ⟨1, -3⟩, .operator .slash,
        .number ⟨-3500, 3⟩, .operator .caret] = .ok (.ok "296296296.2962963") := by
  have ran : run Context.default [.number ⟨150, 2⟩, .number ⟨1000, 0⟩, .operator .slash,
      .number ⟨-35, 1⟩, .operator .caret] = .ok (.ok "296296296.2962963") := by decide +kernel
  have fits : (ReversePolish.runWords Context.default [] [.number ⟨150, 2⟩, .number ⟨1000, 0⟩,
      .operator .slash, .number ⟨-35, 1⟩, .operator .caret]).all Word.fits := by decide +kernel
  have otherFits : (ReversePolish.runWords Context.default [] [.number ⟨15, 1⟩, .number ⟨1, -3⟩,
      .operator .slash, .number ⟨-3500, 3⟩, .operator .caret]).all Word.fits := by decide +kernel
  have otherSucceeds : ((run Context.default [.number ⟨15, 1⟩, .number ⟨1, -3⟩, .operator .slash,
      .number ⟨-3500, 3⟩, .operator .caret]).map Except.isOk) = .ok true := by decide +kernel
  have sameTokens : List.Forall₂ SameToken
      [.number ⟨150, 2⟩, .number ⟨1000, 0⟩, .operator .slash, .number ⟨-35, 1⟩, .operator .caret]
      [.number ⟨15, 1⟩, .number ⟨1, -3⟩, .operator .slash, .number ⟨-3500, 3⟩,
        .operator .caret] := by
    refine .cons (.number ?_) (.cons (.number ?_) (.cons (.same (by simp [Token.isFunction]))
      (.cons (.number ?_) (.cons (.same (by simp [Token.isFunction])) .nil)))) <;>
      norm_num [SameNumber, Decimal.toRat]
  have otherBounded : ∀ bound, run Context.default [.number ⟨15, 1⟩, .number ⟨1, -3⟩,
      .operator .slash, .number ⟨-3500, 3⟩, .operator .caret] ≠ .ok (.error (.excess bound)) := by
    intro bound exceeded
    rw [exceeded] at otherSucceeds
    cases otherSucceeds
  rcases run_eq_of_sameTokens sameTokens (List.all_eq_true.1 fits) (List.all_eq_true.1 otherFits)
    (by simp [ran]) otherBounded with ⟨outcome, first, second⟩
  exact ⟨ran, second.trans (first.symm.trans ran)⟩

/-- At the largest precision that a word of 64 bits holds, a quotient cannot count its digits. No
scale is computed then, and there is no outcome. -/
theorem not_run_eq_of_sameTokens :
    ¬∀ (context : Context) (tokens others : List Token), 1 ≤ context.precision →
      List.Forall₂ SameToken tokens others →
        (∀ scale, run context tokens ≠ .error (.scale scale)) →
          (∀ scale, run context others ≠ .error (.scale scale)) →
            (∀ bound, run context tokens ≠ .ok (.error (.excess bound))) →
              (∀ bound, run context others ≠ .ok (.error (.excess bound))) →
                ∃ outcome, run context tokens = .ok outcome ∧ run context others = .ok outcome := by
  intro agree
  have stopped : run ⟨18446744073709551615, 3000, 10000⟩
      [.number ⟨100, 2⟩, .number ⟨1, 0⟩, .operator .slash] =
        .error (.length 18446744073709551618) := by
    decide +kernel
  have otherStopped : run ⟨18446744073709551615, 3000, 10000⟩
      [.number ⟨1, 0⟩, .number ⟨1, 0⟩, .operator .slash] =
        .error (.length 18446744073709551618) := by
    decide +kernel
  have sameTokens : List.Forall₂ SameToken [.number ⟨100, 2⟩, .number ⟨1, 0⟩, .operator .slash]
      [.number ⟨1, 0⟩, .number ⟨1, 0⟩, .operator .slash] := by
    refine .cons (.number ?_) (.cons (.number ?_) (.cons (.same (by simp [Token.isFunction])) .nil))
      <;> norm_num [SameNumber, Decimal.toRat]
  rcases agree ⟨18446744073709551615, 3000, 10000⟩ _ _ (by decide) sameTokens
    (by simp [stopped]) (by simp [otherStopped]) (by simp [stopped]) (by simp [otherStopped])
    with ⟨outcome, ran, -⟩
  rw [stopped] at ran
  cases ran

end Machine

end DecimalCalculator
