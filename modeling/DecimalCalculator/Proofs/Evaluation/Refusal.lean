import DecimalCalculator.Proofs.Evaluation.Answer
import DecimalCalculator.Proofs.ReversePolish.Conservation

/-!
# Malformed texts are refused

No unknown token and no parenthesis has a value. They are not refused where a text is read, nor
where its tokens are brought into order, but only by the run, and only when it reaches them. It
does reach them: the order loses no unknown token and no opening parenthesis without a partner,
and a run that does not fail goes through all tokens.

A machine may stop before it reaches them, at a word that does not hold its number. It gives no
value to such a text either.
-/

namespace DecimalCalculator

variable {context : Context} {text : String}

namespace Token

/-- Whether a run fails at a token, on every stack of values. -/
def isRefused : Token → Bool
  | unknown _ | openParen | closeParen => true
  | _ => false

end Token

namespace ReversePolish

theorem step_refused (context : Context) {token : Token} (refused : token.isRefused)
    (stack : List Decimal) :
    ∃ cause, step context stack token = .error cause := by
  cases token with
  | unknown _ | openParen | closeParen => cases stack <;> exact ⟨_, rfl⟩
  | _ => cases refused

theorem runFrom_refused (context : Context) {tokens : List Token} {token : Token}
    (member : token ∈ tokens) (refused : token.isRefused) (stack : List Decimal) :
    ∃ cause, runFrom context stack tokens = .error cause := by
  rcases List.append_of_mem member with ⟨front, back, rfl⟩
  rw [runFrom_append]
  cases runFrom context stack front with
  | error cause => exact ⟨cause, rfl⟩
  | ok reached =>
      rcases step_refused context refused reached with ⟨cause, failed⟩
      refine ⟨cause, ?_⟩
      simp only [Except.bind, runFrom_cons, failed]

theorem run_refused (context : Context) {tokens : List Token} {token : Token}
    (member : token ∈ tokens) (refused : token.isRefused) :
    ∃ cause, run context tokens = .error cause := by
  rcases runFrom_refused context member refused [] with ⟨cause, failed⟩
  exact ⟨cause, by rw [run, failed]; rfl⟩

end ReversePolish

/-! ## Evaluation -/

theorem dropPendingOperator_cases (tokens : List Token) :
    dropPendingOperator tokens = tokens ∨
      ∃ infixed, tokens = dropPendingOperator tokens ++ [.operator infixed] := by
  simp only [dropPendingOperator]
  split
  next infixed value rest reversed =>
    right
    have written : tokens = rest.reverse ++ [.number value, .operator infixed] := by
      rw [← List.reverse_reverse tokens, reversed]
      simp
    exact ⟨infixed, by simp [written]⟩
  next => exact .inl rfl

theorem dropPendingOperator_sublist (tokens : List Token) :
    (dropPendingOperator tokens).Sublist tokens := by
  rcases dropPendingOperator_cases tokens with same | ⟨infixed, split⟩
  · rw [same]
  · nth_rewrite 2 [split]
    exact List.sublist_append_left _ _

theorem unknown_mem_dropPendingOperator {tokens : List Token} {name : String}
    (member : .unknown name ∈ tokens) : .unknown name ∈ dropPendingOperator tokens := by
  rcases dropPendingOperator_cases tokens with same | ⟨infixed, split⟩
  · rwa [same]
  · rw [split] at member
    simpa using member

theorem hasUnclosed_dropPendingOperator {tokens : List Token}
    (unclosed : Token.HasUnclosed tokens) :
    Token.HasUnclosed (dropPendingOperator tokens) := by
  rcases dropPendingOperator_cases tokens with same | ⟨infixed, split⟩
  · rwa [same]
  · rw [split] at unclosed
    exact unclosed.of_append_singleton (by simp)

/-- Tokens among which a refused one goes out have no value. -/
theorem evaluation_refused {tokens : List Token} {token : Token}
    (member : token ∈ ReversePolish.ofTokens tokens) (refused : token.isRefused) :
    ∃ cause, Evaluation.ofTokens context tokens = .error cause := by
  rcases ReversePolish.run_refused context member refused with ⟨cause, failed⟩
  rw [Evaluation.ofTokens]
  cases Derivation.ofTokens context tokens with
  | error cause => exact ⟨cause, rfl⟩
  | ok derivation => exact ⟨cause, by rw [failed]; rfl⟩

/-- A text that is no number, and in which something unknown stands or an opening parenthesis
has no partner, has no value. -/
theorem exists_cause_of_malformed (context : Context) (notLiteral : Decimal.parse? text = none)
    (malformed : (∃ name, .unknown name ∈ Token.scan text) ∨
      Token.HasUnclosed (Token.scan text)) :
    ∃ cause, evaluate context text = .error cause := by
  rw [evaluate, notLiteral]
  rcases malformed with ⟨name, member⟩ | unclosed
  · have kept := unknown_mem_dropPendingOperator member
    exact evaluation_refused ((ReversePolish.mem_ofTokens (by simp) (by simp) _).2 kept) rfl
  · have kept := hasUnclosed_dropPendingOperator unclosed
    exact evaluation_refused (ReversePolish.openParen_mem_ofTokens kept) rfl

namespace Machine

/-- A machine gives no value to a malformed text: it fails and answers by the marker, unless it
stops at a word that does not fit. -/
theorem evaluate_malformed (context : Context) (notLiteral : Decimal.parse? text = none)
    (malformed : (∃ name, .unknown name ∈ Token.scan text) ∨
      Token.HasUnclosed (Token.scan text)) :
    (∀ evaluation, evaluate context text ≠ .ok (.ok evaluation)) ∧
      ((∀ word ∈ evaluationWords context text, word.fits) →
        (∃ cause, evaluate context text = .ok (.error cause)) ∧
          answer context text = .ok errorMarker) ∧
      ∀ word, evaluate context text = .error word →
        word ∈ evaluationWords context text ∧ ¬word.fits := by
  rcases exists_cause_of_malformed context notLiteral malformed with ⟨cause, failed⟩
  refine ⟨?_, ?_, fun word stopped => evaluate_eq_error stopped⟩
  · intro evaluation evaluated
    rw [(evaluate_eq_ok_iff.1 evaluated).2] at failed
    cases failed
  · intro fits
    exact ⟨⟨cause, evaluate_eq_ok_iff.2 ⟨fits, failed⟩⟩,
      answer_eq_ok_iff.2 ⟨fits, answer_of_failure failed⟩⟩

/-- The second parenthesis has its partner and the first one has none; the operator at the end
is left out, and changes nothing. -/
theorem evaluate_malformed_unclosed :
    Decimal.parse? "2x((1)!-3+" = none ∧ Token.HasUnclosed (Token.scan "2x((1)!-3+") ∧
      answer Context.default "2x((1)!-3+" = .ok errorMarker := by
  have notLiteral : Decimal.parse? "2x((1)!-3+" = none := by decide
  have unclosed : Token.HasUnclosed (Token.scan "2x((1)!-3+") := by
    refine ⟨[.number ⟨2, 0⟩, .operator .cross], [.openParen, .number ⟨1, 0⟩, .closeParen,
      .mark .factorial, .operator .minus, .number ⟨3, 0⟩, .operator .plus], by decide, ?_⟩
    intro inside rest split
    rcases inside with _ | ⟨first, _ | ⟨second, _ | ⟨third, inside⟩⟩⟩ <;>
      simp at split
    · rcases split with ⟨rfl, rfl, -⟩
      decide
    · have member : Token.closeParen ∈ inside ++ .closeParen :: rest := by simp
      rw [← split.2.2.2] at member
      simp at member
  have fits : (evaluationWords Context.default "2x((1)!-3+").all Word.fits := by decide +kernel
  have refused := (evaluate_malformed Context.default notLiteral (.inr unclosed)).2.1
  exact ⟨notLiteral, unclosed, (refused (List.all_eq_true.1 fits)).2⟩

/-- The powers come before the unknown word in reverse Polish order, and the machine stops at
them. -/
theorem not_evaluate_malformed :
    ¬∀ context text, Decimal.parse? text = none →
      (∃ name, .unknown name ∈ Token.scan text) →
        ∃ cause, evaluate context text = .ok (.error cause) := by
  intro refuses
  have named : (Token.scan "(0.0000000000^999999999)^999999999+pi").contains (.unknown "pi") := by
    decide
  have stopped : evaluate Context.default "(0.0000000000^999999999)^999999999+pi" =
      .error (.scale 9999999960000000040) := by
    decide +kernel
  rcases refuses Context.default "(0.0000000000^999999999)^999999999+pi" (by decide)
    ⟨"pi", List.contains_iff_mem.1 named⟩ with ⟨cause, failed⟩
  rw [stopped] at failed
  cases failed

end Machine

end DecimalCalculator
