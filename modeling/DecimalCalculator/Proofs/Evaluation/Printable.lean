import DecimalCalculator.Proofs.Decimal.Literal
import DecimalCalculator.Proofs.Evaluation.Refusal
import DecimalCalculator.Proofs.Token.Continuation
import DecimalCalculator.Proofs.Token.Rendering

/-!
# Only printable characters are shown

A text may contain any characters, and parts of it are shown again: a literal is its own answer,
and a derivation shows the words that mean nothing. Still no evaluation shows a line break or a
control character. A literal is made of digits, points, signs and exponent marks, and a token that
is no number shows the characters of its lexeme, from which all characters that are skipped have
been left out.
-/

namespace DecimalCalculator

/-- The blank, and the characters that every terminal prints. -/
def IsPrintable (character : Char) : Prop :=
  ' ' ≤ character ∧ character ≤ '~'

instance (character : Char) : Decidable (IsPrintable character) :=
  inferInstanceAs (Decidable (_ ∧ _))

def AllPrintable (text : String) : Prop :=
  ∀ character ∈ text.toList, IsPrintable character

/-! ## Characters -/

section Character

variable {character low high : Char}

theorem IsPrintable.between (lowest : ' ' ≤ low) (highest : high ≤ '~') (above : low ≤ character)
    (below : character ≤ high) : IsPrintable character :=
  ⟨Char.le_trans lowest above, Char.le_trans below highest⟩

theorem isPrintable_of_isDigit (digit : character.isDigit) : IsPrintable character := by
  rcases Lexeme.isDigit_iff.1 digit with ⟨above, below⟩
  exact .between (by decide) (by decide) above below

/-- Characters that are not skipped can be printed. -/
theorem isPrintable_of_kindOf {kind : LexemeKind} (known : Lexeme.kindOf character = some kind) :
    IsPrintable character := by
  have admits := Lexeme.kindOf_eq_some_iff.1 known
  cases kind with
  | numeral =>
      rcases admits with ⟨above, below⟩ | rfl
      · exact .between (by decide) (by decide) above below
      · decide
  | word =>
      rcases admits.1 with ⟨above, below⟩ | ⟨above, below⟩ <;>
        exact .between (by decide) (by decide) above below
  | symbol =>
      have printable : Lexeme.symbols.all fun symbol => IsPrintable symbol := by decide
      exact of_decide_eq_true (List.all_eq_true.1 printable character admits)

end Character

/-! ## Texts -/

theorem allPrintable_of_literal {text : String} {value : Decimal}
    (literal : Decimal.parse? text = some value) : AllPrintable text := by
  intro character member
  rcases Decimal.isPlainCharacter_of_ofChars? literal character member with
    (digit | rfl | sign) | mark
  · exact isPrintable_of_isDigit digit
  · decide
  · rcases Decimal.eq_of_isSign sign with rfl | rfl <;> decide
  · rcases Decimal.eq_of_isExponentMark mark with rfl | rfl <;> decide

theorem allPrintable_plainText (value : Decimal) : AllPrintable value.plainText := by
  have plain : IsPlain value.plainText.toList := by
    rw [Decimal.plainText, String.toList_ofList]
    exact Decimal.isPlain_plainChars value
  rcases plain.exists_ofChars? with ⟨number, literal⟩
  exact allPrintable_of_literal literal

theorem allPrintable_errorMarker : AllPrintable errorMarker := by
  have printable : errorMarker.toList.all fun character => IsPrintable character := by decide
  simpa [AllPrintable] using printable

theorem AllPrintable.append {front back : String} (printableFront : AllPrintable front)
    (printableBack : AllPrintable back) : AllPrintable (front ++ back) := by
  rw [AllPrintable, String.toList_append]
  exact List.forall_mem_append.2 ⟨printableFront, printableBack⟩

theorem AllPrintable.intercalate {texts : List String}
    (printable : ∀ text ∈ texts, AllPrintable text) : AllPrintable (" ".intercalate texts) := by
  induction texts with
  | nil => simp [AllPrintable]
  | cons text texts ih =>
      rw [List.forall_mem_cons] at printable
      cases texts with
      | nil => simpa using printable.1
      | cons next texts =>
          have blank : AllPrintable " " := by
            simp [AllPrintable, IsPrintable]
          rw [String.intercalate_cons_cons]
          exact (printable.1.append blank).append (ih printable.2)

/-! ## Tokens -/

theorem allPrintable_of_mem_split {text : List Char} {lexeme : Lexeme}
    (member : lexeme ∈ Lexeme.split text) : AllPrintable (String.ofList lexeme) := by
  intro character inLexeme
  rw [String.toList_ofList] at inLexeme
  have flat : character ∈ (Lexeme.split text).flatten := List.mem_flatten_of_mem member inLexeme
  rw [Lexeme.flatten_split, List.mem_filter, Option.isSome_iff_exists] at flat
  rcases flat.2 with ⟨kind, known⟩
  exact isPrintable_of_kindOf known

theorem allPrintable_text_of_mem_scan {text : String} {token : Token}
    (member : token ∈ Token.scan text) : AllPrintable token.text := by
  rcases Token.exists_lexeme_of_mem member with ⟨value, rfl⟩ | ⟨lexeme, inText, rfl⟩
  · exact allPrintable_plainText value
  · rcases Token.text_ofLexeme lexeme with ⟨value, isNumber⟩ | same
    · rw [isNumber]
      exact allPrintable_plainText value
    · rw [same]
      exact allPrintable_of_mem_split inText

theorem allPrintable_of_renderAll {context : Context} {shown : String} {tokens : List Token}
    (printable : ∀ token ∈ tokens, AllPrintable token.text)
    (rendered : Token.renderAll context tokens = .ok shown) : AllPrintable shown := by
  rw [Token.eq_of_renderAll rendered]
  exact AllPrintable.intercalate (List.forall_mem_map.2 printable)

/-! ## Evaluations -/

/-- An evaluation shows printable characters only, in its result and in its derivation. -/
theorem allPrintable_of_evaluate {context : Context} {text : String} {evaluation : Evaluation}
    (evaluated : evaluate context text = .ok evaluation) :
    AllPrintable evaluation.result ∧ AllPrintable evaluation.derivation.tokens ∧
      AllPrintable evaluation.derivation.reversePolish := by
  cases literal : Decimal.parse? text with
  | some value =>
      have printable := allPrintable_of_literal literal
      rw [evaluate_of_literal (Option.isSome_of_eq_some literal)] at evaluated
      cases evaluated
      exact ⟨printable, printable, printable⟩
  | none =>
      have notLiteral : ¬(Decimal.parse? text).isSome := by simp [literal]
      have printable : ∀ token ∈ expressionTokens text, AllPrintable token.text :=
        fun token member =>
          allPrintable_text_of_mem_scan ((dropPendingOperator_sublist _).subset member)
      rcases exists_render_of_evaluate evaluated notLiteral with ⟨value, rendered⟩
      rcases renderAll_of_evaluate evaluated notLiteral with ⟨inOrder, reordered⟩
      refine ⟨?_, allPrintable_of_renderAll printable inOrder,
        allPrintable_of_renderAll ?_ reordered⟩
      · rw [Decimal.eq_plainText_of_render rendered]
        exact allPrintable_plainText value
      · intro token member
        exact printable token (ReversePolish.mem_of_mem_ofTokens member).1

theorem allPrintable_answer (context : Context) (text : String) :
    AllPrintable (answer context text) := by
  cases evaluated : evaluate context text with
  | ok evaluation =>
      rw [answer_of_evaluate evaluated]
      exact (allPrintable_of_evaluate evaluated).1
  | error cause =>
      rw [answer_of_failure evaluated]
      exact allPrintable_errorMarker

end DecimalCalculator
