import DecimalCalculator.ReversePolish.Run

/-!
# How calculations fail

A calculation fails with the cause given by the first of its operations that fails. This file
takes results of `Except` apart, and says for every operation on values which causes it can
give. None of them concerns the tokens of an expression: a missing operand and an unknown
token are found by the run over the tokens alone.
-/

namespace DecimalCalculator

section Except

variable {α β ε : Type} {result : Except ε α} {cause : ε}

theorem bind_eq_ok {next : α → Except ε β} {value : β} :
    result.bind next = .ok value ↔ ∃ middle, result = .ok middle ∧ next middle = .ok value := by
  cases result <;> simp [Except.bind]

theorem bind_eq_error {next : α → Except ε β} :
    result.bind next = .error cause ↔
      result = .error cause ∨ ∃ middle, result = .ok middle ∧ next middle = .error cause := by
  cases result <;> simp [Except.bind]

theorem map_eq_ok {function : α → β} {value : β} :
    result.map function = .ok value ↔ ∃ middle, result = .ok middle ∧ function middle = value := by
  cases result <;> simp [Except.map]

theorem map_eq_error {function : α → β} :
    result.map function = .error cause ↔ result = .error cause := by
  cases result <;> simp [Except.map]

theorem exists_eq_ok (succeeds : result.isOk) : ∃ value, result = .ok value := by
  cases result with
  | error cause => cases succeeds
  | ok value => exact ⟨value, rfl⟩

/-- Whether members of a list have results up to one of them, and this one fails with a cause. -/
def FailsFirst (results : α → Except ε β) (members : List α) (cause : ε) : Prop :=
  ∃ front failing back, members = front ++ failing :: back ∧
    (∀ member ∈ front, ∃ value, results member = .ok value) ∧ results failing = .error cause

namespace FailsFirst

variable {results : α → Except ε β} {members : List α} {other : ε}

theorem single {member : α} (failed : results member = .error cause) :
    FailsFirst results [member] cause :=
  ⟨[], member, [], rfl, by simp, failed⟩

theorem append (fails : FailsFirst results members cause) (more : List α) :
    FailsFirst results (members ++ more) cause := by
  rcases fails with ⟨front, failing, back, rfl, succeed, failed⟩
  exact ⟨front, failing, back ++ more, by simp, succeed, failed⟩

theorem behind (fails : FailsFirst results members cause) {front : List α}
    (succeed : ∀ member ∈ front, ∃ value, results member = .ok value) :
    FailsFirst results (front ++ members) cause := by
  rcases fails with ⟨middle, failing, back, rfl, middleSucceed, failed⟩
  refine ⟨front ++ middle, failing, back, by simp, ?_, failed⟩
  intro member within
  rcases List.mem_append.1 within with inFront | inMiddle
  · exact succeed member inFront
  · exact middleSucceed member inMiddle

theorem mapM_eq (fails : FailsFirst results members cause) :
    members.mapM results = .error cause := by
  rcases fails with ⟨front, failing, back, rfl, succeed, failed⟩
  induction front with
  | nil =>
      rw [List.nil_append, List.mapM_cons, failed]
      rfl
  | cons first front ih =>
      rw [List.forall_mem_cons] at succeed
      rcases succeed with ⟨⟨value, succeeded⟩, succeed⟩
      rw [List.cons_append, List.mapM_cons, succeeded, ih succeed]
      rfl

theorem unique (fails : FailsFirst results members cause)
    (again : FailsFirst results members other) : cause = other := by
  have same := fails.mapM_eq
  rw [again.mapM_eq] at same
  exact (Except.error.inj same).symm

end FailsFirst

theorem exists_mapM_of_forall {results : α → Except ε β} {members : List α}
    (succeed : ∀ member ∈ members, ∃ value, results member = .ok value) :
    ∃ values, members.mapM results = .ok values := by
  induction members with
  | nil => exact ⟨[], rfl⟩
  | cons first rest ih =>
      rw [List.forall_mem_cons] at succeed
      rcases succeed with ⟨⟨value, succeeded⟩, succeed⟩
      rcases ih succeed with ⟨values, computed⟩
      rw [List.mapM_cons, succeeded, computed]
      exact ⟨value :: values, rfl⟩

theorem toOption_bind (result : Except ε α) (next : α → Except ε β) :
    (result.bind next).toOption = result.toOption.bind fun value => (next value).toOption := by
  cases result <;> rfl

end Except

namespace CalculationError

/-- Whether a cause lies in the tokens of a calculation and not in its values. -/
def ConcernsTokens : CalculationError → Prop
  | missingOperand _ | unknownToken _ => True
  | _ => False

end CalculationError

variable {context : Context} {cause : CalculationError}

namespace Decimal

theorem add_cause {left right : Decimal} (failed : left.add right = .error cause) :
    cause = .excess .scaleGap := by
  simp only [add] at failed
  split at failed
  · cases failed
  split at failed
  · cases failed
  split at failed
  · cases failed
    rfl
  · cases failed

theorem div_cause {precision : Nat} {dividend divisor : Decimal}
    (failed : dividend.div precision divisor = .error cause) : cause = .divisionByZero := by
  simp only [div] at failed
  split at failed
  · cases failed
    rfl
  split at failed <;> cases failed

theorem pow_cause {base : Decimal} {exponent : Int}
    (failed : base.pow context exponent = .error cause) :
    cause = .divisionByZero ∨ ∃ bound, cause = .excess bound := by
  simp only [pow] at failed
  split at failed
  · cases failed
  split at failed
  · cases failed
    exact .inr ⟨_, rfl⟩
  split at failed
  · cases failed
    exact .inr ⟨_, rfl⟩
  split at failed
  · exact .inl (div_cause (map_eq_error.1 failed))
  · cases failed

theorem factorial_cause {value : Decimal} (failed : value.factorial context = .error cause) :
    cause = .negativeFactorial ∨ ∃ bound, cause = .excess bound := by
  simp only [factorial] at failed
  split at failed
  · split at failed <;> cases failed
    · exact .inl rfl
    · exact .inr ⟨_, rfl⟩
  · split at failed
    · cases failed
      exact .inl rfl
    split at failed <;> cases failed
    exact .inr ⟨_, rfl⟩

theorem ofFloat_cause {function : String} {number : Float}
    (failed : ofFloat function number = .error cause) : cause = .outsideDomain function := by
  simp only [ofFloat] at failed
  split at failed <;> cases failed
  rfl

theorem render_cause {value : Decimal} (failed : value.render context = .error cause) :
    cause = .excess .textLength := by
  simp only [render] at failed
  split at failed <;> cases failed
  rfl

end Decimal

theorem Operator.apply_cause {operator : Operator} {left right : Decimal}
    (failed : operator.apply context left right = .error cause) : ¬cause.ConcernsTokens := by
  cases operator with
  | plus | minus =>
      rw [Decimal.add_cause failed]
      exact not_false
  | star | cross => cases failed
  | slash =>
      rw [Decimal.div_cause failed]
      exact not_false
  | caret =>
      simp only [apply] at failed
      split at failed
      · cases failed
        exact not_false
      · rcases Decimal.pow_cause failed with rfl | ⟨bound, rfl⟩ <;> exact not_false

theorem Mark.apply_cause {mark : Mark} {operand : Decimal}
    (failed : mark.apply context operand = .error cause) : ¬cause.ConcernsTokens := by
  cases mark with
  | factorial =>
      rcases Decimal.factorial_cause failed with rfl | ⟨bound, rfl⟩ <;> exact not_false
  | percent =>
      rw [Decimal.div_cause failed]
      exact not_false

theorem UnaryFunction.apply_cause {function : UnaryFunction} {argument : Decimal}
    (failed : function.apply argument = .error cause) : ¬cause.ConcernsTokens := by
  simp only [apply] at failed
  split at failed
  · cases failed
    exact not_false
  · rw [Decimal.ofFloat_cause failed]
    exact not_false

end DecimalCalculator
