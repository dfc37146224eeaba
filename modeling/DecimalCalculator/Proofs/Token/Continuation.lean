import DecimalCalculator.Proofs.Token.Spelling

/-!
# Writing on behind an operand

What is written behind a complete operand is read in the same way whichever operand it is. A minus
sign there is an operator and never the sign of a number, and no run goes over from the operand
into the text behind it: a token that can stand behind an operand is a single symbol.
-/

namespace DecimalCalculator

/-! ## First lexemes -/

/-- The first lexeme of a text begins with the first character, if that is not skipped. -/
theorem Lexeme.exists_split_eq_cons {character : Char} {kind : LexemeKind}
    (known : kindOf character = some kind) (text : List Char) :
    ∃ tail lexemes, split (character :: text) = (character :: tail) :: lexemes := by
  by_cases symbol : kind = .symbol
  · rw [symbol] at known
    exact ⟨[], _, split_symbol known text⟩
  · rw [split_cons_run known symbol]
    split
    · cases split text with
      | nil => exact ⟨[], [], rfl⟩
      | cons lexeme lexemes => exact ⟨lexeme, lexemes, rfl⟩
    · exact ⟨[], _, rfl⟩

namespace Token

open Lexeme (kindOf)

theorem spells_of_ofSymbol? {symbol : Char} {token : Token}
    (meaning : ofSymbol? symbol = some token) : Spells token [symbol] := by
  rw [ofSymbol?] at meaning
  split at meaning
  next isOpen =>
    cases meaning
    rw [eq_of_beq isOpen]
    exact .openParen
  split at meaning
  next isClose =>
    cases meaning
    rw [eq_of_beq isClose]
    exact .closeParen
  rcases Option.or_eq_some_iff.1 meaning with isOperator | ⟨-, isMark⟩
  · rcases Option.map_eq_some_iff.1 isOperator with ⟨infixed, found, rfl⟩
    have same : infixed.symbol = symbol := by simpa using List.find?_some found
    rw [← same]
    exact .operator infixed
  · rcases Option.map_eq_some_iff.1 isMark with ⟨suffixed, found, rfl⟩
    have same : suffixed.symbol = symbol := by simpa using List.find?_some found
    rw [← same]
    exact .mark suffixed

/-- Only a literal is read as a number. -/
theorem ofChars?_of_ofLexeme {lexeme : Lexeme} {value : Decimal}
    (isNumber : ofLexeme lexeme = number value) : Decimal.ofChars? lexeme = some value := by
  cases read : Decimal.ofChars? lexeme with
  | some other =>
      simp only [ofLexeme, read] at isNumber
      rw [Token.number.inj isNumber]
  | none =>
      simp only [ofLexeme, read] at isNumber
      split at isNumber
      · cases isNumber
      next symbol _ =>
        cases meaning : ofSymbol? symbol with
        | none =>
            rw [meaning] at isNumber
            cases isNumber
        | some token =>
            rw [meaning, Option.getD_some] at isNumber
            have spells := spells_of_ofSymbol? meaning
            rw [isNumber] at spells
            cases spells with
            | number numeral =>
                rw [numeral.ofChars?_eq] at read
                cases read
      · cases isNumber

/-- A lexeme that is neither a number nor unknown spells its token. -/
theorem spells_ofLexeme (lexeme : Lexeme) :
    (∃ value, ofLexeme lexeme = number value) ∨
      ofLexeme lexeme = unknown (String.ofList lexeme) ∨ Spells (ofLexeme lexeme) lexeme := by
  cases read : Decimal.ofChars? lexeme with
  | some value =>
      left
      exact ⟨value, by simp only [ofLexeme, read]⟩
  | none =>
      right
      cases found : UnaryFunction.ofName? (String.ofList lexeme) with
      | some named =>
          right
          have isFunction : ofLexeme lexeme = function named := by
            simp only [ofLexeme, read, found]
          have name : named.name = String.ofList lexeme := by simpa using List.find?_some found
          have written : lexeme = named.name.toList := by rw [name, String.toList_ofList]
          rw [isFunction, written]
          exact .function named
      | none =>
          rcases lexeme with _ | ⟨symbol, _ | ⟨next, rest⟩⟩
          · left
            simp only [ofLexeme, read, found]
          · cases meaning : ofSymbol? symbol with
            | none =>
                left
                simp only [ofLexeme, read, found, meaning, Option.getD_none]
            | some token =>
                right
                have isToken : ofLexeme [symbol] = token := by
                  simp only [ofLexeme, read, found, meaning]
                  rfl
                rw [isToken]
                exact spells_of_ofSymbol? meaning
          · left
            simp only [ofLexeme, read, found]

/-- A lexeme that is no number is the text of its token. -/
theorem text_ofLexeme (lexeme : Lexeme) :
    (∃ value, ofLexeme lexeme = number value) ∨ (ofLexeme lexeme).text = String.ofList lexeme := by
  rcases spells_ofLexeme lexeme with isNumber | same | spells
  · exact .inl isNumber
  · rw [same]
    exact .inr rfl
  · generalize ofLexeme lexeme = token at spells ⊢
    cases spells with
    | number numeral => exact .inl ⟨_, rfl⟩
    | function named => exact .inr String.ofList_toList.symm
    | operator _ | mark _ | openParen | closeParen => exact .inr rfl

/-- A text whose first token can stand behind an operand does not begin with a run. -/
theorem eq_symbol_of_followsOperand {text : List Char}
    (follows : ∀ token ∈ (ofLexemes false (Lexeme.split text)).head?, token.followsOperand)
    {kind : LexemeKind} (first : text.head?.bind kindOf = some kind) : kind = .symbol := by
  cases text with
  | nil => cases first
  | cons character text =>
      have known : kindOf character = some kind := first
      rcases Lexeme.exists_split_eq_cons known text with ⟨tail, lexemes, cut⟩
      rw [cut, ofLexemes_single (.inl rfl)] at follows
      have firstFollows := follows _ rfl
      rcases spells_ofLexeme (character :: tail) with ⟨value, same⟩ | same | spells
      · rw [same] at firstFollows
        cases firstFollows
      · rw [same] at firstFollows
        cases firstFollows
      · have isSymbol : (ofLexeme (character :: tail)).lexemeKind = .symbol := by
          revert firstFollows
          cases ofLexeme (character :: tail) <;> simp [followsOperand, lexemeKind]
        rw [← spells.hasKind.eq_of_mem List.mem_cons_self known]
        exact isSymbol

/-! ## Names -/

theorem eq_name_of_ofLexeme {lexeme : Lexeme} {named : UnaryFunction}
    (isFunction : ofLexeme lexeme = function named) : lexeme = named.name.toList := by
  rcases spells_ofLexeme lexeme with ⟨value, same⟩ | same | spells
  · cases isFunction.symm.trans same
  · cases isFunction.symm.trans same
  · rw [isFunction] at spells
    cases spells
    rfl

/-- A function among the tokens is written by its name. -/
theorem name_mem_of_function_mem {named : UnaryFunction} {opening : Bool} {lexemes : List Lexeme}
    (member : function named ∈ ofLexemes opening lexemes) : named.name.toList ∈ lexemes := by
  rcases exists_lexeme_of_mem member with ⟨value, same⟩ | ⟨lexeme, inLexemes, same⟩
  · cases same
  · rwa [← eq_name_of_ofLexeme same.symm]

/-! ## Joined texts -/

/-- Behind an expression a text is read on its own, as long as no run goes over into it. -/
theorem scan_append {level : Level} {expression : Expression} {tokens : List Token}
    {lexemes : List Lexeme} {text more : String} (written : expression.Written level tokens)
    (spelled : Spelled tokens lexemes) (laidOut : Lexeme.LaidOut lexemes text.toList)
    (apart : ∀ kind, text.toList.getLast?.bind kindOf = some kind →
      more.toList.head?.bind kindOf = some kind → kind = .symbol) :
    scan (text ++ more) = tokens ++ ofLexemes false (Lexeme.split more.toList) := by
  have ordered := written.isChain_openParen
  have read := ofLexemes_spelled spelled ordered (Lexeme.split more.toList)
  rcases written.exists_append_last with ⟨front, last, rfl, ends⟩
  have closed : last.opensOperand = false := by
    cases last <;> simp_all [endsOperand, Token.opensOperand]
  rw [List.getLastD_concat, closed] at read
  rw [scan, String.toList_append, Lexeme.split_append apart,
    split_laidOut ordered spelled laidOut]
  exact read

end Token

end DecimalCalculator
