import DecimalCalculator.Proofs.Decimal.Literal
import DecimalCalculator.Proofs.Expression.Writing
import DecimalCalculator.Proofs.Token.Layout
import DecimalCalculator.Token.Scan

/-!
# Spelling tokens

The lexemes that tokens are written with. A number is a numeral, or a minus sign and a numeral,
which are two lexemes; every other token is a single lexeme. A minus sign alone is an operator,
so the spelling by itself does not tell a negative number from a difference.

What tells them apart is the place: a sign belongs to the number behind it exactly where an
operand begins. Tokens that follow each other as in the writing of an expression are therefore
found again in every text where their lexemes are laid out.
-/

namespace DecimalCalculator.Token

open Lexeme

inductive Spells : Token → Lexeme → Prop
  | number {text : Lexeme} {value : Decimal} (numeral : Numeral text value) :
      Spells (number value) text
  | operator (infixed : Operator) : Spells (operator infixed) [infixed.symbol]
  | function (named : UnaryFunction) : Spells (function named) named.name.toList
  | mark (suffixed : Mark) : Spells (mark suffixed) [suffixed.symbol]
  | openParen : Spells openParen ['(']
  | closeParen : Spells closeParen [')']

/-- The lists of lexemes that spell a list of tokens. -/
inductive Spelled : List Token → List Lexeme → Prop
  | nil : Spelled [] []
  | single {token : Token} {lexeme : Lexeme} {tokens : List Token} {lexemes : List Lexeme}
      (spells : Spells token lexeme) (spelled : Spelled tokens lexemes) :
      Spelled (token :: tokens) (lexeme :: lexemes)
  | signed {text : Lexeme} {value : Decimal} {tokens : List Token} {lexemes : List Lexeme}
      (numeral : Numeral text value) (spelled : Spelled tokens lexemes) :
      Spelled (number value.neg :: tokens) (['-'] :: text :: lexemes)

def lexemeKind : Token → LexemeKind
  | number _ => .numeral
  | function _ | unknown _ => .word
  | _ => .symbol

theorem Spelled.append {tokens others : List Token} {lexemes more : List Lexeme}
    (spelled : Spelled tokens lexemes) (behind : Spelled others more) :
    Spelled (tokens ++ others) (lexemes ++ more) := by
  induction spelled with
  | nil => exact behind
  | single spells spelled ih => exact .single spells ih
  | signed numeral spelled ih => exact .signed numeral ih

/-! ## Single lexemes -/

theorem hasKind_numeral {text : Lexeme} {value : Decimal} (numeral : Numeral text value) :
    text.HasKind .numeral := by
  refine ⟨numeral.ne_nil, ?_, by simp⟩
  intro character member
  rcases numeral.isDigit_or_eq_point character member with digit | rfl
  · simp [kindOf, digit]
  · rfl

theorem kindOf_ne_word {character : Char} (plain : Decimal.IsPlainCharacter character) :
    kindOf character ≠ some .word := by
  rcases plain with digit | rfl | sign
  · simp [kindOf, digit]
  · decide
  · rcases Decimal.eq_of_isSign sign with rfl | rfl <;> decide

theorem kindOf_of_isSign {sign : Char} (isSign : Decimal.isSign sign) :
    kindOf sign = some .symbol := by
  rcases Decimal.eq_of_isSign isSign with rfl | rfl <;> decide

/-- A lexeme that is read as a number is a numeral: no sign stands in a run, and an exponent mark
only in a word. -/
theorem numeral_of_hasKind {lexeme : Lexeme} {kind : LexemeKind} {value : Decimal}
    (hasKind : lexeme.HasKind kind) (read : Decimal.ofChars? lexeme = some value) :
    Numeral lexeme value := by
  rcases Decimal.ofChars?_cases read with signed | ⟨sign, digits, isSign, rfl⟩ |
    ⟨base, mark, exponent, rfl, isMark, plain⟩
  · cases signed with
    | unsigned numeral => exact numeral
    | plus numeral | minus numeral =>
        have alone := hasKind.eq_singleton List.mem_cons_self (kindOf_of_isSign rfl)
        exact absurd (List.cons.inj alone).2 numeral.ne_nil
  · have alone := hasKind.eq_singleton (by simp) (kindOf_of_isSign isSign)
    cases (List.cons.inj alone).2
  · have isWord : kindOf mark = some .word := by
      rcases Decimal.eq_of_isExponentMark isMark with rfl | rfl <;> rfl
    have word := hasKind.eq_of_mem (by simp) isWord
    subst word
    -- The mark is all there is, and a mark alone is no number.
    have empty : base ++ exponent = [] := by
      apply List.eq_nil_iff_forall_not_mem.2
      intro character member
      apply kindOf_ne_word (plain character member)
      apply hasKind.uniform
      exact ((List.sublist_cons_self mark exponent).append_left base).subset member
    rcases List.append_eq_nil_iff.1 empty with ⟨rfl, rfl⟩
    rcases Decimal.eq_of_isExponentMark isMark with rfl | rfl <;> cases read

theorem hasKind_name (named : UnaryFunction) : HasKind named.name.toList .word := by
  have letters : named.name.toList.all fun character => kindOf character = some .word := by
    cases named <;> decide
  refine ⟨by cases named <;> decide, ?_, by simp⟩
  intro character member
  exact of_decide_eq_true (List.all_eq_true.1 letters character member)

theorem hasKind_minus : HasKind ['-'] .symbol :=
  .symbol (by decide)

theorem opensOperand_numeral {text : Lexeme} {value : Decimal} (numeral : Numeral text value) :
    text.opensOperand = false := by
  apply Bool.eq_false_iff.2
  intro opens
  exact absurd ((hasKind_numeral numeral).unique (hasKind_of_opensOperand opens)) (by simp)

theorem Spells.hasKind {token : Token} {lexeme : Lexeme} (spells : Spells token lexeme) :
    lexeme.HasKind token.lexemeKind := by
  cases spells with
  | number numeral => exact hasKind_numeral numeral
  | operator infixed => exact .symbol (by cases infixed <;> decide)
  | function named => exact hasKind_name named
  | mark suffixed => exact .symbol (by cases suffixed <;> decide)
  | openParen | closeParen => exact .symbol (by decide)

theorem Spells.ofLexeme {token : Token} {lexeme : Lexeme} (spells : Spells token lexeme) :
    ofLexeme lexeme = token := by
  cases spells with
  | number numeral => simp only [Token.ofLexeme, numeral.ofChars?_eq]
  | operator infixed => cases infixed <;> decide
  | function named => cases named <;> decide
  | mark suffixed => cases suffixed <;> decide
  | openParen | closeParen => decide

theorem Spells.opensOperand {token : Token} {lexeme : Lexeme} (spells : Spells token lexeme) :
    lexeme.opensOperand = token.opensOperand := by
  cases spells with
  | number numeral => exact opensOperand_numeral numeral
  | operator infixed => cases infixed <;> decide
  | function named => cases named <;> decide
  | mark suffixed => cases suffixed <;> decide
  | openParen | closeParen => decide

theorem Spells.eq_minus {token : Token} (spells : Spells token ['-']) :
    token = .operator .minus := by
  rw [← spells.ofLexeme]
  decide

/-! ## Signs -/

/-- A lexeme that is no sign, or that stands where no operand begins, is a token by itself. -/
theorem ofLexemes_single {opening : Bool} {lexeme : Lexeme}
    (alone : opening = false ∨ lexeme ≠ ['-']) (lexemes : List Lexeme) :
    ofLexemes opening (lexeme :: lexemes) =
      Token.ofLexeme lexeme :: ofLexemes lexeme.opensOperand lexemes := by
  cases lexemes with
  | nil => rfl
  | cons next lexemes =>
      have unsigned : signedNumber? opening lexeme next = none := by
        rcases alone with rfl | noSign
        · rfl
        · simp [signedNumber?, noSign]
      rw [ofLexemes, unsigned]

theorem ofLexemes_signed {text : Lexeme} {value : Decimal} (numeral : Numeral text value)
    (lexemes : List Lexeme) :
    ofLexemes true (['-'] :: text :: lexemes) = number value.neg :: ofLexemes false lexemes := by
  have signed : signedNumber? true ['-'] text = some value.neg := by
    simp [signedNumber?, numeral.ofChars?_eq]
  rw [ofLexemes, signed]
  simp only [opensOperand_numeral numeral]

theorem CanFollow.opensOperand_eq_false {previous : Token} {infixed : Operator}
    (canFollow : CanFollow previous (operator infixed)) : previous.opensOperand = false := by
  cases previous <;> simp_all [CanFollow, beginsOperand, endsOperand, Token.opensOperand]

theorem CanFollow.opensOperand_eq_true {previous : Token} {value : Decimal}
    (canFollow : CanFollow previous (number value)) : previous.opensOperand = true := by
  cases previous <;> simp_all [CanFollow, followsOperand, Token.opensOperand]

/-- Tokens in the order of an expression are found again from the lexemes that spell them, whatever
lexemes stand behind. -/
theorem ofLexemes_spelled {previous : Token} {tokens : List Token} {lexemes : List Lexeme}
    (spelled : Spelled tokens lexemes) (ordered : (previous :: tokens).IsChain CanFollow)
    (rest : List Lexeme) :
    ofLexemes previous.opensOperand (lexemes ++ rest) =
      tokens ++ ofLexemes (tokens.getLastD previous).opensOperand rest := by
  induction spelled generalizing previous with
  | nil => rfl
  | @single token lexeme tokens lexemes spells spelled ih =>
      rcases List.isChain_cons_cons.1 ordered with ⟨canFollow, ordered⟩
      have alone : previous.opensOperand = false ∨ lexeme ≠ ['-'] := by
        by_cases sign : lexeme = ['-']
        · left
          subst sign
          rw [spells.eq_minus] at canFollow
          exact canFollow.opensOperand_eq_false
        · exact .inr sign
      rw [List.cons_append, ofLexemes_single alone, spells.ofLexeme, spells.opensOperand,
        ih ordered, List.getLastD_cons, List.cons_append]
  | signed numeral spelled ih =>
      rcases List.isChain_cons_cons.1 ordered with ⟨canFollow, ordered⟩
      rw [canFollow.opensOperand_eq_true, List.cons_append, List.cons_append,
        ofLexemes_signed numeral, List.getLastD_cons, List.cons_append]
      exact congrArg _ (ih ordered)

theorem exists_of_signedNumber? {opening : Bool} {sign next : Lexeme} {value : Decimal}
    (signed : signedNumber? opening sign next = some value) :
    ∃ magnitude, sign = ['-'] ∧ Decimal.ofChars? next = some magnitude ∧
      value = magnitude.neg := by
  simp only [signedNumber?] at signed
  split at signed
  next holds =>
    rcases Option.map_eq_some_iff.1 signed with ⟨magnitude, read, rfl⟩
    exact ⟨magnitude, by simpa using (Bool.and_eq_true_iff.1 holds).2, read, rfl⟩
  next => cases signed

/-- A token that is no number is made of a single lexeme. -/
theorem exists_lexeme_of_mem {token : Token} {opening : Bool} {lexemes : List Lexeme}
    (member : token ∈ ofLexemes opening lexemes) :
    (∃ value, token = number value) ∨ ∃ lexeme ∈ lexemes, token = ofLexeme lexeme := by
  fun_induction ofLexemes opening lexemes with
  | case1 => cases member
  | case2 opening lexeme => exact .inr ⟨lexeme, List.mem_cons_self, List.mem_singleton.1 member⟩
  | case3 opening sign next rest value signed ih =>
      rcases List.mem_cons.1 member with same | member
      · exact .inl ⟨value, same⟩
      · refine (ih member).imp_right ?_
        rintro ⟨lexeme, inRest, same⟩
        exact ⟨lexeme, List.mem_cons_of_mem _ (List.mem_cons_of_mem _ inRest), same⟩
  | case4 opening first next rest unsigned ih =>
      rcases List.mem_cons.1 member with same | member
      · exact .inr ⟨first, List.mem_cons_self, same⟩
      · refine (ih member).imp_right ?_
        rintro ⟨lexeme, inRest, same⟩
        exact ⟨lexeme, List.mem_cons_of_mem _ inRest, same⟩

/-- A lexeme that is neither a sign nor a number is a token by itself wherever it stands. -/
theorem ofLexeme_mem_ofLexemes {lexeme : Lexeme} {lexemes : List Lexeme}
    (member : lexeme ∈ lexemes) (noSign : lexeme ≠ ['-'])
    (noNumber : Decimal.ofChars? lexeme = none) (opening : Bool) :
    ofLexeme lexeme ∈ ofLexemes opening lexemes := by
  fun_induction ofLexemes opening lexemes with
  | case1 => cases member
  | case2 opening other =>
      rw [List.mem_singleton.1 member]
      exact List.mem_cons_self
  | case3 opening sign next rest value signed ih =>
      rcases exists_of_signedNumber? signed with ⟨magnitude, isSign, isNumber, -⟩
      rcases List.mem_cons.1 member with rfl | member
      · exact absurd isSign noSign
      rcases List.mem_cons.1 member with rfl | member
      · simp [noNumber] at isNumber
      · exact List.mem_cons_of_mem _ (ih member)
  | case4 opening first next rest unsigned ih =>
      rcases List.mem_cons.1 member with rfl | member
      · exact List.mem_cons_self
      · exact List.mem_cons_of_mem _ (ih member)

/-! ## Texts -/

theorem CanFollow.lexemeKind_eq_symbol {previous next : Token}
    (canFollow : CanFollow previous next) :
    previous.lexemeKind = .symbol ∨ next.lexemeKind = .symbol := by
  cases previous <;> cases next <;>
    simp_all [CanFollow, lexemeKind, beginsOperand, endsOperand, followsOperand, isFunction,
      Token.opensOperand]

theorem separated_of_hasKind {previous next : Lexeme} {kind other : LexemeKind}
    (hasKind : previous.HasKind kind) (hasOther : next.HasKind other)
    (symbol : kind = .symbol ∨ other = .symbol) : Separated previous next := by
  intro same previousHasSame nextHasSame
  rcases symbol with rfl | rfl
  · exact previousHasSame.unique hasKind
  · exact nextHasSame.unique hasOther

theorem Spelled.exists_hasKind {tokens : List Token} {lexemes : List Lexeme}
    (spelled : Spelled tokens lexemes) : ∀ lexeme ∈ lexemes, ∃ kind, lexeme.HasKind kind := by
  induction spelled with
  | nil =>
      intro lexeme member
      cases member
  | single spells spelled ih =>
      exact List.forall_mem_cons.2 ⟨⟨_, spells.hasKind⟩, ih⟩
  | signed numeral spelled ih =>
      exact List.forall_mem_cons.2 ⟨⟨_, hasKind_minus⟩,
        List.forall_mem_cons.2 ⟨⟨_, hasKind_numeral numeral⟩, ih⟩⟩

theorem Spelled.separated {previous : Token} {tokens : List Token} {lexemes : List Lexeme}
    (spelled : Spelled tokens lexemes) (ordered : (previous :: tokens).IsChain CanFollow)
    {last : Lexeme} (hasKind : last.HasKind previous.lexemeKind) :
    (last :: lexemes).IsChain Separated := by
  induction spelled generalizing previous last with
  | nil => exact .singleton last
  | single spells spelled ih =>
      rcases List.isChain_cons_cons.1 ordered with ⟨canFollow, ordered⟩
      exact .cons_cons (separated_of_hasKind hasKind spells.hasKind canFollow.lexemeKind_eq_symbol)
        (ih ordered spells.hasKind)
  | signed numeral spelled ih =>
      rcases List.isChain_cons_cons.1 ordered with ⟨canFollow, ordered⟩
      have digits := hasKind_numeral numeral
      exact .cons_cons (separated_of_hasKind hasKind hasKind_minus (.inr rfl))
        (.cons_cons (separated_of_hasKind hasKind_minus digits (.inl rfl)) (ih ordered digits))

theorem split_laidOut {tokens : List Token} {lexemes : List Lexeme} {text : List Char}
    (ordered : (openParen :: tokens).IsChain CanFollow) (spelled : Spelled tokens lexemes)
    (laidOut : LaidOut lexemes text) : split text = lexemes := by
  have separated : lexemes.IsChain Separated :=
    (spelled.separated ordered Spells.openParen.hasKind).tail
  exact split_of_cut (laidOut.cut spelled.exists_hasKind separated)

/-- Tokens in the order of an expression are found in every text in which the lexemes that
spell them are laid out. -/
theorem scan_laidOut {tokens : List Token} {lexemes : List Lexeme} {text : String}
    (ordered : (openParen :: tokens).IsChain CanFollow) (spelled : Spelled tokens lexemes)
    (laidOut : LaidOut lexemes text.toList) : scan text = tokens := by
  have read := ofLexemes_spelled spelled ordered []
  rw [List.append_nil, ofLexemes, List.append_nil] at read
  rw [scan, split_laidOut ordered spelled laidOut]
  exact read

end DecimalCalculator.Token
