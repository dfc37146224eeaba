import DecimalCalculator.Proofs.Evaluation.Meaning

/-!
# Operators that still wait for an operand

While an expression is being typed, the preview must not vanish with every operator. An operator
written behind a text is always the last token of the longer text: no run of characters goes over
into it, it is not the number that a sign in front of it waits for, and it is never the sign of a
number itself, since none stands behind it. So it can be left out again where it stands behind a
number, and the evaluation is the same with its derivation, or fails for the same cause.

The longer text is not read as a literal either, because a literal never ends with an operator.
-/

namespace DecimalCalculator

variable {context : Context} {text : String}

theorem Decimal.parse?_append_operator (text : String) (infixed : Operator) :
    Decimal.parse? (text ++ infixed.symbol.toString) = none := by
  cases read : Decimal.parse? (text ++ infixed.symbol.toString) with
  | none => rfl
  | some value =>
      have last : (text ++ infixed.symbol.toString).toList.getLast? = some infixed.symbol := by
        simp
      have foreign : ¬(infixed.symbol.isDigit ∨ infixed.symbol = '.') := by
        cases infixed <;> decide
      exact absurd (getLast?_of_ofChars? read infixed.symbol last) foreign

namespace Token

/-- A lexeme at the end that is no number is a token by itself. -/
theorem ofLexemes_append_last {last : Lexeme} (noNumber : Decimal.ofChars? last = none)
    (opening : Bool) (lexemes : List Lexeme) :
    ofLexemes opening (lexemes ++ [last]) = ofLexemes opening lexemes ++ [ofLexeme last] := by
  fun_induction ofLexemes opening lexemes with
  | case1 => rfl
  | case2 opening lexeme =>
      have unsigned : signedNumber? opening lexeme last = none := by
        simp [signedNumber?, noNumber]
      simp [ofLexemes, unsigned]
  | case3 opening sign next rest value signed ih => simp [ofLexemes, signed, ih]
  | case4 opening first next rest unsigned ih => simpa [ofLexemes, unsigned] using ih

theorem scan_append_operator (text : String) (infixed : Operator) :
    scan (text ++ infixed.symbol.toString) = scan text ++ [operator infixed] := by
  have spells : Spells (operator infixed) [infixed.symbol] := .operator infixed
  have symbol : Lexeme.kindOf infixed.symbol = some .symbol :=
    spells.hasKind.uniform infixed.symbol List.mem_cons_self
  have cut : Lexeme.split (text ++ infixed.symbol.toString).toList =
      Lexeme.split text.toList ++ [[infixed.symbol]] := by
    rw [String.toList_append, Char.toString, String.toList_singleton, Lexeme.split_append,
      spells.hasKind.split_eq]
    intro kind _ first
    rw [List.head?_cons, Option.bind_some, symbol] at first
    exact (Option.some.inj first).symm
  have noNumber : Decimal.ofChars? [infixed.symbol] = none := by
    cases infixed <;> rfl
  rw [scan, cut, ofLexemes_append_last noNumber, spells.ofLexeme]
  rfl

end Token

theorem dropPendingOperator_append_operator {front : List Token} (value : Decimal)
    (infixed : Operator) :
    dropPendingOperator (front ++ [.number value] ++ [.operator infixed]) =
      front ++ [.number value] := by
  simp [dropPendingOperator]

/-- A text that is no number and whose last token is one is evaluated alike, or fails for the same
cause, when an operator is written behind it. -/
theorem evaluate_append_operator {value : Decimal} (context : Context)
    (notLiteral : Decimal.parse? text = none)
    (last : (Token.scan text).getLast? = some (.number value)) (infixed : Operator) :
    evaluate context (text ++ infixed.symbol.toString) = evaluate context text := by
  rcases List.getLast?_eq_some_iff.1 last with ⟨front, tokens⟩
  have same : expressionTokens (text ++ infixed.symbol.toString) = expressionTokens text := by
    rw [expressionTokens, expressionTokens, Token.scan_append_operator, tokens,
      dropPendingOperator_append_operator, dropPendingOperator_append_last rfl]
  rw [evaluate, evaluate, notLiteral, Decimal.parse?_append_operator, same]
  rfl

/-- The sign in the text belongs to its number, and the sign written behind the text is left out,
although a skipped character stands between. -/
theorem evaluate_append_operator_sign :
    Decimal.parse? "(2)x-3é" = none ∧
      (Token.scan "(2)x-3é").getLast? = some (.number ⟨-3, 0⟩) ∧
      evaluate Context.default "(2)x-3é-" = evaluate Context.default "(2)x-3é" := by
  have notLiteral : Decimal.parse? "(2)x-3é" = none := by decide
  have last : (Token.scan "(2)x-3é").getLast? = some (.number ⟨-3, 0⟩) := by decide
  have written : "(2)x-3é-" = "(2)x-3é" ++ Operator.minus.symbol.toString := by decide
  rw [written]
  exact ⟨notLiteral, last, evaluate_append_operator Context.default notLiteral last .minus⟩

end DecimalCalculator
