import DecimalCalculator.Proofs.Decimal.PlainText
import DecimalCalculator.Token.Basic

/-!
# Rendering tokens

Only numbers can be too long to be shown. A list of tokens is therefore rendered as the texts
of its tokens if every number among them is shown, and fails on the length of a text if one of
them is not. The order of the tokens decides nothing about the failure.
-/

namespace DecimalCalculator.Token

variable {context : Context} {tokens : List Token}

theorem render_eq_ok {token : Token}
    (shown : ∀ value, token = number value → value.Shown context) :
    render context token = .ok token.text := by
  cases token with
  | number value => exact Decimal.render_of_shown (shown value rfl)
  | _ => rfl

theorem render_eq (context : Context) (token : Token) :
    render context token = .ok token.text ∨
      render context token = .error (.excess .textLength) := by
  cases token with
  | number value =>
      by_cases shown : value.Shown context
      · exact .inl (Decimal.render_of_shown shown)
      · exact .inr (Decimal.render_of_not_shown shown)
  | _ => exact .inl rfl

/-- Tokens are rendered as their texts when all numbers are shown. -/
theorem renderAll_of_shown (shown : ∀ value, number value ∈ tokens → value.Shown context) :
    renderAll context tokens = .ok (String.intercalate " " (tokens.map text)) := by
  have texts : tokens.mapM (render context) = .ok (tokens.map text) := by
    induction tokens with
    | nil => rfl
    | cons token tokens ih =>
        have first : render context token = .ok token.text :=
          render_eq_ok fun value same => shown value (same ▸ List.mem_cons_self)
        have rest := ih fun value member => shown value (List.mem_cons_of_mem token member)
        rw [List.mapM_cons, first, rest]
        rfl
  rw [renderAll, texts]
  rfl

theorem renderAll_of_not_shown {value : Decimal} (member : number value ∈ tokens)
    (notShown : ¬value.Shown context) :
    renderAll context tokens = .error (.excess .textLength) := by
  have failed : tokens.mapM (render context) = .error (.excess .textLength) := by
    induction tokens with
    | nil => cases member
    | cons token tokens ih =>
        rw [List.mapM_cons]
        rcases render_eq context token with rendered | long
        · rcases List.mem_cons.1 member with rfl | inRest
          · exact absurd ⟨_, rendered⟩ notShown
          · rw [rendered, ih inRest]
            rfl
        · rw [long]
          rfl
  rw [renderAll, failed]
  rfl

/-- Where tokens are rendered, their numbers are shown. -/
theorem shown_of_renderAll {text : String} {value : Decimal}
    (rendered : renderAll context tokens = .ok text) (member : number value ∈ tokens) :
    value.Shown context := by
  by_contra notShown
  simp [renderAll_of_not_shown member notShown] at rendered

/-- Whatever is rendered is the texts of its tokens. -/
theorem eq_of_renderAll {text : String} (rendered : renderAll context tokens = .ok text) :
    text = String.intercalate " " (tokens.map Token.text) := by
  have texts := renderAll_of_shown fun value => shown_of_renderAll rendered
  exact Except.ok.inj (rendered.symm.trans texts)

end DecimalCalculator.Token
