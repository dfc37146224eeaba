import DecimalCalculator.Proofs.Evaluation.Tokens
import DecimalCalculator.Proofs.Token.Continuation

/-!
# The two signs of multiplication

Multiplication is written with a cross, which is a letter, or with a star, which is none. They are
the same operator nevertheless, in whatever text they stand: each is a lexeme by itself and ends the
word in front of it, each opens an operand, and they have the same rank and the same value.

Two texts that differ in these signs only become the same text when every cross is made a star. So
it is enough to compare a text with its starred form, and each stage of the evaluation carries the
stars along: the lexemes of the starred text are the starred lexemes, and so on for the tokens, for
their order and for the stack. Only the cause of a failure may tell the signs apart, because an
operator without operands is named in it; the answer does not show the cause.
-/

namespace DecimalCalculator

/-- Whether two characters are the same, or the two signs of multiplication. -/
inductive SameSign : Char → Char → Prop
  | refl (character : Char) : SameSign character character
  | star : SameSign 'x' '*'
  | cross : SameSign '*' 'x'

/-! ## Starred forms -/

def starOf (character : Char) : Char :=
  if character = 'x' then '*' else character

def starredText (text : String) : String :=
  String.ofList (text.toList.map starOf)

def Operator.starred : Operator → Operator
  | cross => star
  | infixed => infixed

def Token.starred : Token → Token
  | operator infixed => operator infixed.starred
  | token => token

theorem SameSign.starOf_eq {character other : Char} (same : SameSign character other) :
    starOf character = starOf other := by
  cases same <;> rfl

theorem map_starOf_eq {text other : List Char} (same : List.Forall₂ SameSign text other) :
    text.map starOf = other.map starOf := by
  induction same with
  | nil => rfl
  | cons first rest ih => rw [List.map_cons, List.map_cons, first.starOf_eq, ih]

theorem map_starOf_of_not_mem {text : List Char} (noCross : 'x' ∉ text) :
    text.map starOf = text := by
  nth_rewrite 2 [← List.map_id text]
  apply List.map_congr_left
  intro character member
  apply if_neg
  rintro rfl
  exact noCross member

/-! ## Lexemes -/

namespace Lexeme

theorem kindOf_starOf (character : Char) : kindOf (starOf character) = kindOf character := by
  rw [starOf]
  split
  next cross =>
    rw [cross]
    decide
  next => rfl

theorem extend_map (character : Char) (lexemes : List Lexeme) :
    extend (starOf character) (lexemes.map (List.map starOf)) =
      (extend character lexemes).map (List.map starOf) := by
  cases lexemes <;> rfl

theorem split_map (text : List Char) :
    split (text.map starOf) = (split text).map (List.map starOf) := by
  have first (rest : List Char) :
      (rest.map starOf).head?.bind kindOf = rest.head?.bind kindOf := by
    cases rest <;> simp [kindOf_starOf]
  induction text with
  | nil => rfl
  | cons character rest ih =>
      rw [List.map_cons, split, split, kindOf_starOf, first, ih]
      split
      · rfl
      · rfl
      · split <;> simp [extend_map]

/-- A lexeme is a cross, or its starred form is the lexeme itself. -/
theorem HasKind.starred_cases {lexeme : Lexeme} {kind : LexemeKind}
    (hasKind : lexeme.HasKind kind) :
    lexeme = ['x'] ∨ 'x' ∉ lexeme ∧ lexeme.map starOf = lexeme := by
  by_cases cross : 'x' ∈ lexeme
  · exact .inl (hasKind.eq_singleton cross (by decide))
  · exact .inr ⟨cross, map_starOf_of_not_mem cross⟩

end Lexeme

/-! ## Tokens -/

namespace Token

theorem starred_of_ne {token : Token} (noCross : token ≠ operator .cross) :
    token.starred = token := by
  cases token with
  | operator infixed =>
      cases infixed with
      | cross => exact absurd rfl noCross
      | _ => rfl
  | _ => rfl

/-- Only the cross is read as the operator that is written with it. -/
theorem ofLexeme_ne_cross {lexeme : Lexeme} (noCross : 'x' ∉ lexeme) :
    ofLexeme lexeme ≠ operator .cross := by
  intro isCross
  rcases spells_ofLexeme lexeme with ⟨value, same⟩ | same | spells
  · cases isCross.symm.trans same
  · cases isCross.symm.trans same
  · rw [isCross] at spells
    cases spells
    exact noCross List.mem_cons_self

variable {lexeme next : Lexeme} {kind nextKind : LexemeKind}

theorem ofLexeme_map (hasKind : lexeme.HasKind kind) :
    ofLexeme (lexeme.map starOf) = (ofLexeme lexeme).starred := by
  rcases hasKind.starred_cases with rfl | ⟨noCross, same⟩
  · decide
  · rw [same, starred_of_ne (ofLexeme_ne_cross noCross)]

theorem opensOperand_map (hasKind : lexeme.HasKind kind) :
    Lexeme.opensOperand (lexeme.map starOf) = lexeme.opensOperand := by
  rcases hasKind.starred_cases with rfl | ⟨-, same⟩
  · rfl
  · rw [same]

theorem signedNumber?_map (hasKind : lexeme.HasKind kind) (nextHasKind : next.HasKind nextKind)
    (opening : Bool) :
    signedNumber? opening (lexeme.map starOf) (next.map starOf) =
      signedNumber? opening lexeme next := by
  have sign : (lexeme.map starOf == ['-']) = (lexeme == ['-']) := by
    rcases hasKind.starred_cases with rfl | ⟨-, same⟩
    · rfl
    · rw [same]
  have number : Decimal.ofChars? (next.map starOf) = Decimal.ofChars? next := by
    rcases nextHasKind.starred_cases with rfl | ⟨-, same⟩
    · rfl
    · rw [same]
  rw [signedNumber?, signedNumber?, sign, number]

theorem ofLexemes_map {lexemes : List Lexeme}
    (proper : ∀ lexeme ∈ lexemes, ∃ kind, lexeme.HasKind kind) (opening : Bool) :
    ofLexemes opening (lexemes.map (List.map starOf)) =
      (ofLexemes opening lexemes).map starred := by
  fun_induction ofLexemes opening lexemes with
  | case1 => rfl
  | case2 opening lexeme =>
      rcases proper lexeme List.mem_cons_self with ⟨kind, hasKind⟩
      exact congrArg (fun token => [token]) (ofLexeme_map hasKind)
  | case3 opening sign next rest value signed ih =>
      rw [List.forall_mem_cons, List.forall_mem_cons] at proper
      rcases proper with ⟨⟨kind, hasKind⟩, ⟨nextKind, nextHasKind⟩, proper⟩
      have same := signedNumber?_map hasKind nextHasKind opening
      rw [List.map_cons, List.map_cons, ofLexemes, same, signed, List.map_cons]
      simp only [opensOperand_map nextHasKind, ih proper]
      rfl
  | case4 opening first next rest unsigned ih =>
      rcases List.forall_mem_cons.1 proper with ⟨⟨kind, hasKind⟩, properRest⟩
      rcases properRest next List.mem_cons_self with ⟨nextKind, nextHasKind⟩
      have same := signedNumber?_map hasKind nextHasKind opening
      rw [List.map_cons, List.map_cons, ofLexemes, same, unsigned, List.map_cons]
      simp only [opensOperand_map hasKind, ofLexeme_map hasKind]
      rw [← List.map_cons, ih properRest]

theorem scan_starredText (text : String) : scan (starredText text) = (scan text).map starred := by
  rw [scan, scan, starredText, String.toList_ofList, Lexeme.split_map]
  exact ofLexemes_map (Lexeme.cut_split text.toList).exists_hasKind true

theorem rank_starred (token : Token) : token.starred.rank = token.rank := by
  cases token with
  | operator infixed => cases infixed <;> rfl
  | _ => rfl

theorem isOpenParen_starred (token : Token) : token.starred.isOpenParen = token.isOpenParen := by
  cases token <;> rfl

theorem starred_eq_caret_iff (token : Token) :
    token.starred = operator .caret ↔ token = operator .caret := by
  cases token with
  | operator infixed => cases infixed <;> simp [starred, Operator.starred]
  | _ => simp [starred]

theorem number_mem_map_starred (value : Decimal) (tokens : List Token) :
    number value ∈ tokens.map starred ↔ number value ∈ tokens := by
  rw [List.mem_map]
  constructor
  · rintro ⟨token, member, same⟩
    cases token with
    | number other => rwa [← same]
    | _ => cases same
  · intro member
    exact ⟨number value, member, rfl⟩

end Token

theorem dropPendingOperator_map (tokens : List Token) :
    dropPendingOperator (tokens.map Token.starred) =
      (dropPendingOperator tokens).map Token.starred := by
  rw [dropPendingOperator, dropPendingOperator, ← List.map_reverse]
  rcases tokens.reverse with _ | ⟨last, _ | ⟨previous, rest⟩⟩
  · rfl
  · cases last <;> rfl
  · cases last <;> cases previous <;> simp [Token.starred]

/-! ## Order and run -/

namespace ReversePolish

open Token

theorem yieldsTo_starred (arriving waiting : Token) :
    yieldsTo arriving.starred waiting.starred = yieldsTo arriving waiting := by
  simp only [yieldsTo, rank_starred, isOpenParen_starred, bne, beq_eq_decide, starred_eq_caret_iff]

theorem releaseFunction_map (waiting : List Token) :
    releaseFunction (waiting.map starred) =
      ((releaseFunction waiting).1.map starred, (releaseFunction waiting).2.map starred) := by
  cases waiting with
  | nil => rfl
  | cons token waiting => cases token <;> rfl

theorem close_map (waiting : List Token) :
    close (waiting.map starred) =
      ((close waiting).1.map starred, (close waiting).2.map starred) := by
  have inside : (fun token : Token => !token.isOpenParen) ∘ starred =
      fun token : Token => !token.isOpenParen := by
    funext token
    simp [isOpenParen_starred]
  simp only [close, List.takeWhile_map, List.dropWhile_map, inside, ← List.map_drop,
    releaseFunction_map, List.map_append]

theorem advance_map (waiting : List Token) (token : Token) :
    advance (waiting.map starred) token.starred =
      ((advance waiting token).1.map starred, (advance waiting token).2.map starred) := by
  have yields : yieldsTo token.starred ∘ starred = yieldsTo token := by
    funext other
    exact yieldsTo_starred token other
  have moved :
      ((waiting.map starred).takeWhile (yieldsTo token.starred),
          token.starred :: (waiting.map starred).dropWhile (yieldsTo token.starred)) =
        ((waiting.takeWhile (yieldsTo token)).map starred,
          (token :: waiting.dropWhile (yieldsTo token)).map starred) := by
    rw [List.takeWhile_map, List.dropWhile_map, yields, List.map_cons]
  cases token with
  | operator _ | unknown _ => exact moved
  | closeParen => exact close_map waiting
  | number _ | mark _ | function _ | openParen => rfl

theorem order_map (waiting tokens : List Token) :
    order (waiting.map starred) (tokens.map starred) = (order waiting tokens).map starred := by
  induction tokens generalizing waiting with
  | nil => rfl
  | cons token tokens ih =>
      rw [List.map_cons, order_cons, order_cons, advance_map, ih, List.map_append]

theorem ofTokens_map (tokens : List Token) :
    ofTokens (tokens.map starred) = (ofTokens tokens).map starred :=
  order_map [] tokens

/-- The cause of a failure may name the operator, so the stacks are compared where there are any. -/
theorem toOption_step_starred (context : Context) (stack : List Decimal) (token : Token) :
    (step context stack token.starred).toOption = (step context stack token).toOption := by
  cases token with
  | operator infixed => cases infixed <;> cases stack <;> rfl
  | _ => rfl

theorem toOption_runFrom_map (context : Context) (stack : List Decimal) (tokens : List Token) :
    (runFrom context stack (tokens.map starred)).toOption =
      (runFrom context stack tokens).toOption := by
  induction tokens generalizing stack with
  | nil => rfl
  | cons token tokens ih =>
      rw [List.map_cons, runFrom_cons, runFrom_cons, toOption_bind, toOption_bind,
        toOption_step_starred]
      exact congrArg _ (funext ih)

theorem toOption_run_map (context : Context) (tokens : List Token) :
    (run context (tokens.map starred)).toOption = (run context tokens).toOption := by
  rw [run, run, toOption_bind, toOption_bind, toOption_runFrom_map]

end ReversePolish

/-! ## Answers -/

theorem Decimal.parse?_eq_none_of_product {text : String}
    (sign : 'x' ∈ text.toList ∨ '*' ∈ text.toList) : parse? text = none := by
  rcases sign with cross | star
  · exact parse?_eq_none_of_mem cross (by rw [IsPlainCharacter]; decide) (by decide)
  · exact parse?_eq_none_of_mem star (by rw [IsPlainCharacter]; decide) (by decide)

theorem expressionTokens_starredText (text : String) :
    expressionTokens (starredText text) = (expressionTokens text).map Token.starred := by
  rw [expressionTokens, expressionTokens, Token.scan_starredText, dropPendingOperator_map]

/-- A text is answered like its starred form. -/
theorem answer_starredText (context : Context) (text : String) :
    answer context (starredText text) = answer context text := by
  by_cases cross : 'x' ∈ text.toList
  · have star : '*' ∈ (starredText text).toList := by
      rw [starredText, String.toList_ofList]
      exact List.mem_map_of_mem cross
    rw [answer_of_notLiteral (Decimal.parse?_eq_none_of_product (.inr star)),
      answer_of_notLiteral (Decimal.parse?_eq_none_of_product (.inl cross)),
      expressionTokens_starredText]
    apply congrArg (Option.getD · errorMarker)
    apply view_result_congr
    · intro value _
      exact Token.number_mem_map_starred value (expressionTokens text)
    · rw [ReversePolish.ofTokens_map, ReversePolish.toOption_run_map]
  · -- A number is such a text: it has nothing to star.
    rw [starredText, map_starOf_of_not_mem cross, String.ofList_toList]

/-- Texts that differ in nothing but the signs of multiplication have the same answer. -/
theorem answer_eq_of_sameSign {text other : String} (context : Context)
    (same : List.Forall₂ SameSign text.toList other.toList) :
    answer context text = answer context other := by
  rw [← answer_starredText context text, ← answer_starredText context other, starredText,
    starredText, map_starOf_eq same]

/-- A cross cuts the word in two where a star does, stands in front of a sign as a star does, and is
left out at the end. -/
theorem answer_eq_of_sameSign_words :
    List.Forall₂ SameSign "2x-3*ln(4)*".toList "2*-3xln(4)x".toList ∧
      answer Context.default "2x-3*ln(4)*" = answer Context.default "2*-3xln(4)x" := by
  have same : List.Forall₂ SameSign "2x-3*ln(4)*".toList "2*-3xln(4)x".toList := by
    repeat' constructor
  exact ⟨same, answer_eq_of_sameSign Context.default same⟩

end DecimalCalculator
