import DecimalCalculator.Proofs.Evaluation.Answer

/-!
# Wider limits keep every answer

A context has two limits that only refuse: the largest factorial and the longest text. Where they
are raised and the precision stays, whatever had a value keeps it. This holds of the whole
evaluation, although every literal, every token of both orders and the result are rendered within
the limit of the display, and every factorial within its own.

Results are compared in one direction only, since more may succeed under the wider limits. That a
value is kept goes through the sequence of operations as success itself does, so each operation is
looked at once and a run is an induction over its tokens.
-/

namespace DecimalCalculator

/-! ## Values that are kept -/

section Keeps

variable {α β ε : Type} {narrow wide : Except ε α}

/-- Whether one result has the value of another one, if that has a value. -/
def Keeps (narrow wide : Except ε α) : Prop :=
  ∀ value, narrow = .ok value → wide = .ok value

namespace Keeps

theorem refl (result : Except ε α) : Keeps result result :=
  fun _ succeeded => succeeded

theorem of_error (cause : ε) (wide : Except ε α) : Keeps (.error cause) wide := by
  intro value succeeded
  cases succeeded

theorem bind {next otherNext : α → Except ε β} (keeps : Keeps narrow wide)
    (keepsNext : ∀ value, Keeps (next value) (otherNext value)) :
    Keeps (narrow.bind next) (wide.bind otherNext) := by
  intro result succeeded
  rcases bind_eq_ok.1 succeeded with ⟨value, found, rest⟩
  rw [keeps value found]
  exact keepsNext value result rest

theorem map (keeps : Keeps narrow wide) (function : α → β) :
    Keeps (narrow.map function) (wide.map function) := by
  intro result succeeded
  cases narrow with
  | error cause => cases succeeded
  | ok value =>
      rw [keeps value rfl]
      exact succeeded

theorem mapM {function otherFunction : β → Except ε α} (items : List β)
    (keeps : ∀ item, Keeps (function item) (otherFunction item)) :
    Keeps (items.mapM function) (items.mapM otherFunction) := by
  induction items with
  | nil => exact .refl _
  | cons item items ih =>
      rw [List.mapM_cons, List.mapM_cons]
      exact (keeps item).bind fun _ => ih.bind fun _ => .refl _

end Keeps

end Keeps

/-- Whether a context differs from another one by wider limits only. -/
structure Context.IsWidenedBy (context wider : Context) : Prop where
  precision : context.precision = wider.precision
  factorialLimit : context.factorialLimit ≤ wider.factorialLimit
  displayLimit : context.displayLimit ≤ wider.displayLimit

variable {context wider : Context}

/-! ## Operations -/

namespace Decimal

theorem keeps_render (widened : context.IsWidenedBy wider) (value : Decimal) :
    Keeps (value.render context) (value.render wider) := by
  have display := widened.displayLimit
  rw [render, render]
  split
  · exact .of_error _ _
  next shown =>
    have stillShown : ¬(¬value.isZero ∧ wider.displayLimit < value.plainLength) := by
      rintro ⟨nonzero, long⟩
      exact shown ⟨nonzero, Nat.lt_of_le_of_lt display long⟩
    rw [if_neg stillShown]
    exact .refl _

theorem keeps_factorial (widened : context.IsWidenedBy wider) (value : Decimal) :
    Keeps (value.factorial context) (value.factorial wider) := by
  have limit := widened.factorialLimit
  simp only [factorial]
  split
  · exact .refl _
  next number _ =>
    split
    · exact .refl _
    · split
      · exact .of_error _ _
      next inRange =>
        have stillInRange : ¬wider.factorialLimit < number.toNat := by omega
        rw [if_neg stillInRange]
        exact .refl _

theorem pow_of_precision (precision : context.precision = wider.precision) (base : Decimal)
    (exponent : Int) : base.pow context exponent = base.pow wider exponent := by
  simp only [pow, powerPrecision, precision]

end Decimal

theorem Operator.apply_of_precision (precision : context.precision = wider.precision)
    (operator : Operator) (left right : Decimal) :
    operator.apply context left right = operator.apply wider left right := by
  cases operator with
  | plus | minus | star | cross => rfl
  | slash => simp only [apply, precision]
  | caret => simp only [apply, Decimal.pow_of_precision precision]

theorem Mark.keeps_apply (widened : context.IsWidenedBy wider) (mark : Mark) (operand : Decimal) :
    Keeps (mark.apply context operand) (mark.apply wider operand) := by
  cases mark with
  | factorial => exact Decimal.keeps_factorial widened operand
  | percent =>
      simp only [apply, widened.precision]
      exact .refl _

namespace Token

theorem keeps_render (widened : context.IsWidenedBy wider) (token : Token) :
    Keeps (token.render context) (token.render wider) := by
  cases token with
  | number value => exact Decimal.keeps_render widened value
  | _ => exact .refl _

theorem keeps_renderAll (widened : context.IsWidenedBy wider) (tokens : List Token) :
    Keeps (renderAll context tokens) (renderAll wider tokens) :=
  (Keeps.mapM tokens (keeps_render widened)).map _

end Token

/-! ## Runs -/

namespace ReversePolish

theorem keeps_step (widened : context.IsWidenedBy wider) (stack : List Decimal) (token : Token) :
    Keeps (step context stack token) (step wider stack token) := by
  cases stack with
  | nil => cases token <;> exact .refl _
  | cons operand rest =>
      cases token with
      | operator operator =>
          simp only [step, operator.apply_of_precision widened.precision]
          exact .refl _
      | mark mark => exact (mark.keeps_apply widened operand).map _
      | _ => exact .refl _

theorem keeps_runFrom (widened : context.IsWidenedBy wider) (stack : List Decimal)
    (tokens : List Token) :
    Keeps (runFrom context stack tokens) (runFrom wider stack tokens) := by
  induction tokens generalizing stack with
  | nil => exact .refl _
  | cons token tokens ih => exact (keeps_step widened stack token).bind ih

theorem keeps_run (widened : context.IsWidenedBy wider) (tokens : List Token) :
    Keeps (run context tokens) (run wider tokens) := by
  apply (keeps_runFrom widened [] tokens).bind
  intro stack
  simp only [renderBottom]
  split
  · exact .refl _
  · exact Decimal.keeps_render widened _

end ReversePolish

theorem Derivation.keeps_ofTokens (widened : context.IsWidenedBy wider) (tokens : List Token) :
    Keeps (Derivation.ofTokens context tokens) (Derivation.ofTokens wider tokens) :=
  (Token.keeps_renderAll widened tokens).bind fun _ =>
    (Token.keeps_renderAll widened _).bind fun _ => .refl _

theorem Evaluation.keeps_ofTokens (widened : context.IsWidenedBy wider) (tokens : List Token) :
    Keeps (Evaluation.ofTokens context tokens) (Evaluation.ofTokens wider tokens) :=
  (Derivation.keeps_ofTokens widened tokens).bind fun _ =>
    (ReversePolish.keeps_run widened _).bind fun _ => .refl _

/-- An evaluation that succeeds under some limits succeeds under wider ones, with the same result
and the same derivation. -/
theorem evaluate_of_isWidenedBy (widened : context.IsWidenedBy wider) {text : String}
    {evaluation : Evaluation} (evaluated : evaluate context text = .ok evaluation) :
    evaluate wider text = .ok evaluation := by
  rw [evaluate] at evaluated ⊢
  split at evaluated
  next literal => rw [if_pos literal, evaluated]
  next notLiteral =>
    rw [if_neg notLiteral]
    exact Evaluation.keeps_ofTokens widened _ _ evaluated

/-- The limits are just wide enough for the factorial and for the quotient: the largest factorial is
the one that is taken, and the display has no place to spare. -/
theorem evaluate_of_isWidenedBy_quotient :
    evaluate ⟨5, 4, 6⟩ "4!/7" = .ok ⟨"3.4286", ⟨"4 ! / 7", "4 ! 7 /"⟩⟩ ∧
      evaluate ⟨5, 3000, 10000⟩ "4!/7" = .ok ⟨"3.4286", ⟨"4 ! / 7", "4 ! 7 /"⟩⟩ := by
  have evaluated : evaluate ⟨5, 4, 6⟩ "4!/7" = .ok ⟨"3.4286", ⟨"4 ! / 7", "4 ! 7 /"⟩⟩ := by
    decide +kernel
  exact ⟨evaluated, evaluate_of_isWidenedBy ⟨rfl, by decide, by decide⟩ evaluated⟩

end DecimalCalculator
