import DecimalCalculator.Proofs.Decimal.Literal
import DecimalCalculator.Proofs.Evaluation.Refusal
import DecimalCalculator.Proofs.Evaluation.Tokens
import DecimalCalculator.Proofs.Token.Spelling

/-!
# Literals read as expressions

A text that is a literal is its own answer and is never read as an expression. This file says
what would come out if it were. A numeral behind at most one sign is a number for the lexer too:
a minus sign is fused with it, and a plus sign adds it to the zero that stands in for a missing
operand. Its evaluation shows the number that the literal denotes.

No other literal can be read as an expression. An exponent mark is a word without a meaning, and
so is a point with a sign behind it; the evaluation of the tokens fails.
-/

namespace DecimalCalculator

variable {text : String} {value : Decimal}

/-! ## The tokens of a literal -/

theorem scan_of_signedNumeral (signed : SignedNumeral text.toList value) :
    Token.scan text = [.number value] ∨
      Token.scan text = [.operator .plus, .number value] := by
  have single {numeral : List Char} {number : Decimal} (isNumeral : Numeral numeral number) :
      Token.ofLexemes true [numeral] = [.number number] :=
    congrArg (fun token => [token]) (Token.Spells.number isNumeral).ofLexeme
  rw [Token.scan]
  generalize text.toList = characters at signed ⊢
  cases signed with
  | unsigned numeral =>
      left
      rw [(Token.hasKind_numeral numeral).split_eq, single numeral]
  | @plus numeral _ isNumeral =>
      right
      rw [Lexeme.split_symbol (by decide), (Token.hasKind_numeral isNumeral).split_eq,
        Token.ofLexemes_single (.inr (by decide))]
      exact congrArg _ (single isNumeral)
  | @minus numeral number isNumeral =>
      left
      rw [Lexeme.split_symbol (by decide), (Token.hasKind_numeral isNumeral).split_eq,
        Token.ofLexemes_signed isNumeral]
      rfl

/-- A single character that means nothing is an unknown token among those of the text. -/
theorem exists_unknown_mem_scan {character : Char} {name : String}
    (member : [character] ∈ Lexeme.split text.toList)
    (meaningless : Token.ofLexeme [character] = .unknown name) :
    ∃ name, .unknown name ∈ Token.scan text := by
  refine ⟨name, ?_⟩
  rw [← meaningless]
  apply Token.ofLexeme_mem_ofLexemes member
  · intro sign
    rw [sign] at meaningless
    cases meaningless
  · cases read : Decimal.ofChars? [character] with
    | none => rfl
    | some number => simp [Token.ofLexeme, read] at meaningless

/-- The tokens of a literal are its number, behind a plus sign if the literal has one, or there is
an unknown token among them. -/
theorem scan_of_literal (literal : Decimal.parse? text = some value) :
    SignedNumeral text.toList value ∧
        (Token.scan text = [.number value] ∨
          Token.scan text = [.operator .plus, .number value]) ∨
      ∃ name, .unknown name ∈ Token.scan text := by
  rcases Decimal.ofChars?_cases literal with signed | ⟨sign, digits, isSign, written⟩ |
    ⟨base, mark, exponent, written, isMark, plain⟩
  · exact .inl ⟨signed, scan_of_signedNumeral signed⟩
  · right
    have behind : (sign :: digits).head?.bind Lexeme.kindOf ≠ some .numeral := by
      rw [List.head?_cons, Option.bind_some]
      rcases Decimal.eq_of_isSign isSign with rfl | rfl <;> decide
    have member : ['.'] ∈ Lexeme.split ([] ++ '.' :: sign :: digits) :=
      Lexeme.singleton_mem_split rfl (by simp) behind
    rw [List.nil_append, ← written] at member
    exact exists_unknown_mem_scan member rfl
  · right
    rw [List.forall_mem_append] at plain
    have before : base.getLast?.bind Lexeme.kindOf ≠ some .word := by
      simp only [Ne, Option.bind_eq_some_iff, not_exists, not_and]
      intro last isLast
      exact Token.kindOf_ne_word (plain.1 last (List.mem_of_getLast? isLast))
    have behind : exponent.head?.bind Lexeme.kindOf ≠ some .word := by
      simp only [Ne, Option.bind_eq_some_iff, not_exists, not_and]
      intro first isFirst
      exact Token.kindOf_ne_word (plain.2 first (List.mem_of_head? isFirst))
    have known : Lexeme.kindOf mark = some .word := by
      rcases Decimal.eq_of_isExponentMark isMark with rfl | rfl <;> rfl
    have member := Lexeme.singleton_mem_split known before behind
    rw [← written] at member
    rcases Decimal.eq_of_isExponentMark isMark with rfl | rfl
    · exact exists_unknown_mem_scan member rfl
    · exact exists_unknown_mem_scan member rfl

/-! ## The evaluation of a literal -/

variable {context : Context}

theorem result_number (context : Context) (value : Decimal) :
    (Evaluation.ofTokens context [.number value]).map Evaluation.result =
      value.render context := by
  by_cases shown : value.Shown context
  · exact result_evaluation_of_shown fun other member => by
      rwa [Token.number.inj (List.mem_singleton.1 member)]
  · rw [evaluation_of_not_shown List.mem_cons_self shown, Decimal.render_of_not_shown shown]
    rfl

/-- A plus sign in front of a number adds it to zero, which leaves it as it is written. -/
theorem result_plus_number (context : Context) (value : Decimal) :
    (Evaluation.ofTokens context [.operator .plus, .number value]).map Evaluation.result =
      value.render context := by
  by_cases shown : value.Shown context
  · exact result_evaluation_of_shown fun other member => by
      rwa [show other = value by simpa using member]
  · rw [evaluation_of_not_shown (List.mem_cons_of_mem _ List.mem_cons_self) shown,
      Decimal.render_of_not_shown shown]
    rfl

/-- What a literal would give as an expression. A numeral behind at most one sign gives the text
of the number that the literal denotes, or fails as that text does. Every other literal fails. -/
theorem evaluation_of_literal (context : Context) (literal : Decimal.parse? text = some value) :
    (SignedNumeral text.toList value →
        (Evaluation.ofTokens context (expressionTokens text)).map Evaluation.result =
          value.render context) ∧
      (¬SignedNumeral text.toList value →
        ∃ cause, Evaluation.ofTokens context (expressionTokens text) = .error cause) := by
  refine ⟨?_, ?_⟩
  · intro signed
    rw [expressionTokens]
    rcases scan_of_signedNumeral signed with scanned | scanned <;> rw [scanned]
    · exact result_number context value
    · exact result_plus_number context value
  · intro notSigned
    rcases scan_of_literal literal with ⟨signed, -⟩ | ⟨name, member⟩
    · exact absurd signed notSigned
    · have kept := unknown_mem_dropPendingOperator member
      exact evaluation_refused ((ReversePolish.mem_ofTokens (by simp) (by simp) _).2 kept) rfl

/-- The minus sign is fused with the numeral, and the zero at the end is not shown. -/
theorem evaluation_of_literal_negative :
    Decimal.parse? "-2.50" = some ⟨-250, 2⟩ ∧
      (Evaluation.ofTokens Context.default (expressionTokens "-2.50")).map Evaluation.result =
        .ok "-2.5" := by
  have literal : Decimal.parse? "-2.50" = some ⟨-250, 2⟩ := by decide
  have signed : SignedNumeral "-2.50".toList ⟨-250, 2⟩ :=
    .minus (@Numeral.pointed ['2'] ['5', '0'] (by decide) (by decide))
  exact ⟨literal, (evaluation_of_literal Context.default literal).1 signed⟩

/-- A literal with an exponent denotes a number that is shown, and is no expression. -/
theorem evaluation_of_literal_exponent :
    Decimal.parse? "1e3" = some ⟨1, -3⟩ ∧
      Decimal.render Context.default ⟨1, -3⟩ = .ok "1000" ∧
      Evaluation.ofTokens Context.default (expressionTokens "1e3") =
        .error (.unknownToken "e") := by
  refine ⟨by decide, rfl, ?_⟩
  rw [show expressionTokens "1e3" = [.number ⟨1, 0⟩, .unknown "e", .number ⟨3, 0⟩] by decide]
  rfl

end DecimalCalculator
