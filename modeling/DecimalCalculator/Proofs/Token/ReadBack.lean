import DecimalCalculator.Proofs.Decimal.RoundTrip
import DecimalCalculator.Proofs.Decimal.SameNumber
import DecimalCalculator.Proofs.Token.Continuation
import DecimalCalculator.Proofs.Token.Fusion
import DecimalCalculator.Proofs.Token.Rendering

/-!
# Reading back what was rendered

The text that is rendered for the tokens of a text is read as the same tokens again. The lexemes of
the rendered text are those of the original one, where numerals are written anew and nothing else
is changed: blanks between the texts of the tokens keep the runs apart, and a sign that belongs to a
number is written directly in front of it. The roles of the signs depend on places and kinds of
lexemes only, so they are the same in both texts.

A sign in front of a zero is the exception. It belongs to the zero, and the text of a zero has no
sign.
-/

namespace DecimalCalculator

/-! ## Decimals -/

namespace Decimal

/-- The decimal that the text of a decimal is read as. -/
def reread (value : Decimal) : Decimal :=
  (parse? value.plainText).getD value

variable {value : Decimal}

theorem parse?_plainText (value : Decimal) : parse? value.plainText = some value.reread := by
  rcases (isPlainTextOf_plainText value).exists_parse? with ⟨read, parsed, -⟩
  simp [reread, parsed]

theorem sameNumber_reread (value : Decimal) : SameNumber value value.reread := by
  rcases (isPlainTextOf_plainText value).exists_parse? with ⟨read, parsed, same⟩
  simp [reread, parsed, SameNumber, same]

/-- A decimal that was read back has the text that it was read from, and no digits are lost when it
is written again. -/
theorem plainText_reread (value : Decimal) :
    value.reread.plainText = value.plainText ∧
      value.reread.plainLength = (unsigned value.plainChars).length := by
  have plain := (isPlainTextOf_plainText value).plain
  rcases exists_plainText_of_isPlain plain with ⟨read, parsed, written, length⟩
  have same : value.reread = read := by simp [reread, parsed]
  rw [same]
  refine ⟨written, ?_⟩
  simpa [plainText] using length

theorem Shown.reread {context : Context} (shown : value.Shown context) :
    value.reread.Shown context := by
  have alike := (sameNumber_reread value).isZero_eq
  by_cases zero : value.isZero
  · rw [zero] at alike
    exact ⟨value.reread.plainText, by simp [render, ← alike]⟩
  · have written := (plainText_reread value).2
    rw [unsigned_plainChars zero] at written
    have shorter := length_plainMagnitude_le value
    have fits := shown.plainLength_le zero
    exact ⟨_, render_of_plainLength_le (by omega)⟩

/-- The text of a decimal that is not negative is a numeral. -/
theorem numeral_plainChars (nonnegative : value.isNegative = false) :
    Numeral value.plainChars value.reread := by
  have numeral : ∃ number, Numeral value.plainChars number := by
    by_cases zero : value.isZero
    · have written : value.plainChars = ['0'] := by simp [plainChars, zero]
      rw [written]
      exact ⟨_, .whole (by simp) (.zeros 1)⟩
    · have written : value.plainChars = value.plainMagnitude := by
        simp [plainChars, zero, nonnegative]
      rcases exists_numeral_plainMagnitude value with ⟨number, numeral, -⟩
      rw [written]
      exact ⟨number, numeral⟩
  rcases numeral with ⟨number, numeral⟩
  have read := parse?_plainText value
  simp only [parse?, plainText, String.toList_ofList, numeral.ofChars?_eq] at read
  cases read
  exact numeral

/-- The opposite is written with a minus sign. -/
theorem plainChars_neg (nonnegative : value.isNegative = false) (nonzero : ¬value.isZero) :
    value.neg.plainChars = '-' :: value.plainChars := by
  have negative : value.neg.isNegative := by
    simp only [isNegative, decide_eq_false_iff_not, isZero_iff] at nonnegative nonzero
    have positive : 0 < value.mantissa := by omega
    simpa [isNegative, neg] using positive
  have magnitude : value.neg.plainMagnitude = value.plainMagnitude := by
    simp [plainMagnitude, neg]
  simp [plainChars, nonzero, nonnegative, negative, magnitude, isZero_neg]

theorem reread_neg (nonnegative : value.isNegative = false) (nonzero : ¬value.isZero) :
    value.neg.reread = value.reread.neg := by
  have numeral := numeral_plainChars nonnegative
  have read := parse?_plainText value.neg
  simp only [parse?, plainText, String.toList_ofList, plainChars_neg nonnegative nonzero,
    numeral.ofChars?_minus] at read
  exact (Option.some.inj read).symm

end Decimal

theorem Numeral.isNegative_eq_false {text : List Char} {value : Decimal}
    (numeral : Numeral text value) : value.isNegative = false := by
  cases numeral <;> simp [Decimal.isNegative]

/-! ## Lexemes -/

namespace Lexeme

/-- A lexeme as it is written in the rendered text: a number as its plain text. -/
def rewritten (lexeme : Lexeme) : Lexeme :=
  ((Decimal.ofChars? lexeme).map Decimal.plainChars).getD lexeme

variable {lexeme : Lexeme} {kind : LexemeKind}

theorem rewritten_of_numeral {value : Decimal} (numeral : Numeral lexeme value) :
    lexeme.rewritten = value.plainChars := by
  simp [rewritten, numeral.ofChars?_eq]

theorem rewritten_of_no_number (noNumber : Decimal.ofChars? lexeme = none) :
    lexeme.rewritten = lexeme := by
  simp [rewritten, noNumber]

theorem numeral_rewritten {value : Decimal} (numeral : Numeral lexeme value) :
    Numeral lexeme.rewritten value.reread := by
  rw [rewritten_of_numeral numeral]
  exact Decimal.numeral_plainChars numeral.isNegative_eq_false

/-- A lexeme is a numeral and rewritten as a numeral, or it is no number and stays as it is. -/
theorem rewritten_cases (hasKind : lexeme.HasKind kind) :
    (∃ value, Numeral lexeme value ∧ Numeral lexeme.rewritten value.reread) ∨
      Decimal.ofChars? lexeme = none ∧ lexeme.rewritten = lexeme := by
  cases read : Decimal.ofChars? lexeme with
  | some value =>
      have numeral := Token.numeral_of_hasKind hasKind read
      exact .inl ⟨value, numeral, numeral_rewritten numeral⟩
  | none => exact .inr ⟨rfl, rewritten_of_no_number read⟩

theorem hasKind_rewritten (hasKind : lexeme.HasKind kind) : lexeme.rewritten.HasKind kind := by
  rcases rewritten_cases hasKind with ⟨value, numeral, again⟩ | ⟨-, same⟩
  · have isNumeral := (Token.hasKind_numeral numeral).unique hasKind
    subst isNumeral
    exact Token.hasKind_numeral again
  · rwa [same]

theorem opensOperand_rewritten (hasKind : lexeme.HasKind kind) :
    lexeme.rewritten.opensOperand = lexeme.opensOperand := by
  rcases rewritten_cases hasKind with ⟨value, numeral, again⟩ | ⟨-, same⟩
  · simp [Token.opensOperand_numeral numeral, Token.opensOperand_numeral again]
  · rw [same]

theorem rewritten_eq_sign_iff (hasKind : lexeme.HasKind kind) :
    lexeme.rewritten = ['-'] ↔ lexeme = ['-'] := by
  rcases rewritten_cases hasKind with ⟨value, numeral, again⟩ | ⟨-, same⟩
  · have noSign {text : Lexeme} {number : Decimal} (isNumeral : Numeral text number) :
        text ≠ ['-'] := by
      rintro rfl
      cases isNumeral.ofChars?_eq
    exact iff_of_false (noSign again) (noSign numeral)
  · rw [same]

theorem ofChars?_rewritten (hasKind : lexeme.HasKind kind) :
    Decimal.ofChars? lexeme.rewritten = (Decimal.ofChars? lexeme).map Decimal.reread := by
  rcases rewritten_cases hasKind with ⟨value, numeral, again⟩ | ⟨noNumber, same⟩
  · simp [numeral.ofChars?_eq, again.ofChars?_eq]
  · simp [same, noNumber]

end Lexeme

namespace Token

open Lexeme (split rewritten)

/-- A token with the number that the text of its number is read as. -/
def reread : Token → Token
  | number value => number value.reread
  | token => token

/-- Whether no sign belongs to a zero. -/
def NoSignedZero (lexemes : List Lexeme) : Prop :=
  ∀ index < lexemes.length, isFused lexemes index →
    ¬(lexemes[index + 1]?.bind Decimal.ofChars?).any Decimal.isZero

instance (lexemes : List Lexeme) : Decidable (NoSignedZero lexemes) :=
  inferInstanceAs (Decidable (∀ index < lexemes.length, isFused lexemes index →
    ¬(lexemes[index + 1]?.bind Decimal.ofChars?).any Decimal.isZero))

variable {before rest lexemes : List Lexeme} {lexeme sign next : Lexeme} {kind : LexemeKind}
variable {opening : Bool} {value : Decimal}

/-! ## Single tokens -/

theorem reread_of_no_number (noNumber : Decimal.ofChars? lexeme = none) :
    (ofLexeme lexeme).reread = ofLexeme lexeme := by
  cases same : ofLexeme lexeme with
  | number value => simp [ofChars?_of_ofLexeme same] at noNumber
  | _ => rfl

theorem ofLexeme_rewritten (hasKind : lexeme.HasKind kind) :
    ofLexeme lexeme.rewritten = (ofLexeme lexeme).reread := by
  rcases Lexeme.rewritten_cases hasKind with ⟨value, numeral, again⟩ | ⟨noNumber, same⟩
  · simp [(Spells.number numeral).ofLexeme, (Spells.number again).ofLexeme, reread]
  · rw [same, reread_of_no_number noNumber]

theorem split_text_ofLexeme (hasKind : lexeme.HasKind kind) :
    split (ofLexeme lexeme).text.toList = [lexeme.rewritten] := by
  have written : (ofLexeme lexeme).text.toList = lexeme.rewritten := by
    rcases Lexeme.rewritten_cases hasKind with ⟨value, numeral, -⟩ | ⟨noNumber, same⟩
    · simp [(Spells.number numeral).ofLexeme, text, Decimal.plainText,
        Lexeme.rewritten_of_numeral numeral]
    · rcases text_ofLexeme lexeme with ⟨value, isNumber⟩ | written
      · simp [ofChars?_of_ofLexeme isNumber] at noNumber
      · simp [written, same]
  rw [written]
  exact (Lexeme.hasKind_rewritten hasKind).split_eq

theorem NoSignedZero.not_isZero (noSignedZero : NoSignedZero (before ++ sign :: next :: rest))
    (signed : signedNumber? (opensBehind before) sign next = some value) : ¬value.isZero := by
  have fused : isFused (before ++ sign :: next :: rest) before.length := by
    simp [isFused_append, signed]
  have notZero := noSignedZero before.length (by simp) fused
  rcases exists_of_signedNumber? signed with ⟨magnitude, -, read, rfl⟩
  simpa [read, Decimal.isZero_neg] using notZero

/-- A signed number other than zero is written as its sign and its numeral. -/
theorem split_text_signed (hasKind : next.HasKind kind)
    (signed : signedNumber? opening sign next = some value) (nonzero : ¬value.isZero) :
    split (number value).text.toList = [sign.rewritten, next.rewritten] := by
  rcases exists_of_signedNumber? signed with ⟨magnitude, rfl, read, rfl⟩
  have numeral := numeral_of_hasKind hasKind read
  simp only [Decimal.isZero_neg] at nonzero
  have written : (number magnitude.neg).text.toList = '-' :: next.rewritten := by
    simp [text, Decimal.plainText, Lexeme.rewritten_of_numeral numeral,
      Decimal.plainChars_neg numeral.isNegative_eq_false nonzero]
  rw [written, Lexeme.split_symbol rfl, (Lexeme.hasKind_rewritten hasKind).split_eq]
  rfl

theorem signedNumber?_rewritten {signKind : LexemeKind} (hasSignKind : sign.HasKind signKind)
    (hasKind : next.HasKind kind)
    (nonzero : ∀ value, signedNumber? opening sign next = some value → ¬value.isZero) :
    signedNumber? opening sign.rewritten next.rewritten =
      (signedNumber? opening sign next).map Decimal.reread := by
  have sameSign : (sign.rewritten == ['-']) = (sign == ['-']) := by
    rw [Bool.eq_iff_iff, beq_iff_eq, beq_iff_eq]
    exact Lexeme.rewritten_eq_sign_iff hasSignKind
  simp only [signedNumber?, sameSign] at nonzero ⊢
  split
  next isSign =>
    simp only [isSign, if_true] at nonzero
    rw [Lexeme.ofChars?_rewritten hasKind, Option.map_map, Option.map_map]
    apply Option.map_congr
    intro magnitude read
    have numeral := numeral_of_hasKind hasKind read
    have notZero := nonzero magnitude.neg (by simp [read])
    rw [Decimal.isZero_neg] at notZero
    exact (Decimal.reread_neg numeral.isNegative_eq_false notZero).symm
  next => rfl

/-! ## All tokens -/

/-- The lexemes that the tokens are written with are the lexemes they were read from, rewritten. -/
theorem flatMap_split_text (opens : opening = opensBehind before)
    (proper : ∀ lexeme ∈ lexemes, ∃ kind, lexeme.HasKind kind)
    (noSignedZero : NoSignedZero (before ++ lexemes)) :
    (ofLexemes opening lexemes).flatMap (fun token => split token.text.toList) =
      lexemes.map rewritten := by
  -- The lexemes in front vary with the induction: places of signs are counted from the first one.
  fun_induction ofLexemes opening lexemes generalizing before with
  | case1 => rfl
  | case2 opening lexeme =>
      rcases proper lexeme List.mem_cons_self with ⟨kind, hasKind⟩
      simp [split_text_ofLexeme hasKind]
  | case3 opening sign next rest value signed ih =>
      subst opens
      rcases List.forall_mem_cons.1 proper with ⟨-, properNext⟩
      rcases List.forall_mem_cons.1 properNext with ⟨⟨kind, hasKind⟩, properRest⟩
      have first := split_text_signed hasKind signed (noSignedZero.not_isZero signed)
      have remaining : NoSignedZero (before ++ [sign, next] ++ rest) := by
        simpa using noSignedZero
      have behind := ih (by simp [opensBehind]) properRest remaining
      simp [first, behind]
  | case4 opening first next rest unsigned ih =>
      rcases List.forall_mem_cons.1 proper with ⟨⟨kind, hasKind⟩, properRest⟩
      have remaining : NoSignedZero (before ++ [first] ++ next :: rest) := by
        simpa using noSignedZero
      have behind := ih (opensBehind_append before first).symm properRest remaining
      simp [split_text_ofLexeme hasKind, behind]

/-- Rewritten lexemes are read as the tokens of the lexemes, with numbers read back. -/
theorem ofLexemes_rewritten (opens : opening = opensBehind before)
    (proper : ∀ lexeme ∈ lexemes, ∃ kind, lexeme.HasKind kind)
    (noSignedZero : NoSignedZero (before ++ lexemes)) :
    ofLexemes opening (lexemes.map rewritten) = (ofLexemes opening lexemes).map reread := by
  fun_induction ofLexemes opening lexemes generalizing before with
  | case1 => rfl
  | case2 opening lexeme =>
      rcases proper lexeme List.mem_cons_self with ⟨kind, hasKind⟩
      simp [ofLexemes, ofLexeme_rewritten hasKind]
  | case3 opening sign next rest value signed ih =>
      subst opens
      rcases List.forall_mem_cons.1 proper with ⟨⟨signKind, hasSignKind⟩, properNext⟩
      rcases List.forall_mem_cons.1 properNext with ⟨⟨kind, hasKind⟩, properRest⟩
      have again := signedNumber?_rewritten hasSignKind hasKind fun _ => noSignedZero.not_isZero
      have remaining : NoSignedZero (before ++ [sign, next] ++ rest) := by
        simpa using noSignedZero
      have behind := ih (by simp [opensBehind]) properRest remaining
      simp [ofLexemes, again, signed, Lexeme.opensOperand_rewritten hasKind, behind, reread]
  | case4 opening first next rest unsigned ih =>
      subst opens
      rcases List.forall_mem_cons.1 proper with ⟨⟨firstKind, hasFirstKind⟩, properRest⟩
      rcases properRest next List.mem_cons_self with ⟨kind, hasKind⟩
      have again := signedNumber?_rewritten hasFirstKind hasKind fun _ => noSignedZero.not_isZero
      have remaining : NoSignedZero (before ++ [first] ++ next :: rest) := by
        simpa using noSignedZero
      have behind := ih (opensBehind_append before first).symm properRest remaining
      simp only [List.map_cons] at behind
      simp [ofLexemes, again, unsigned, Lexeme.opensOperand_rewritten hasFirstKind, behind,
        ofLexeme_rewritten hasFirstKind]

/-! ## Texts -/

/-- Texts with blanks between them are cut one by one. -/
theorem split_intercalate (texts : List String) :
    split (String.intercalate " " texts).toList = texts.flatMap fun text => split text.toList := by
  induction texts with
  | nil => rfl
  | cons first rest ih =>
      cases rest with
      | nil => simp
      | cons second rest =>
          have blank : Lexeme.Skipped [' '] := by decide
          -- No run goes on behind a blank.
          have apart : ∀ kind, first.toList.getLast?.bind Lexeme.kindOf = some kind →
              ([' '] ++ (String.intercalate " " (second :: rest)).toList).head?.bind
                Lexeme.kindOf = some kind → kind = .symbol := by
            intro kind last goesOn
            cases goesOn
          have cut := Lexeme.split_append apart
          rw [Lexeme.split_skipped blank, ih] at cut
          rw [String.intercalate_cons_cons]
          simpa using cut

/-- The text of the tokens is read as the tokens, with numbers read back. -/
theorem scan_texts {text : String} (noSignedZero : NoSignedZero (split text.toList)) :
    scan (String.intercalate " " ((scan text).map Token.text)) = (scan text).map reread := by
  have proper := (Lexeme.cut_split text.toList).exists_hasKind
  have texts := @flatMap_split_text [] _ true rfl proper noSignedZero
  have again := @ofLexemes_rewritten [] _ true rfl proper noSignedZero
  rw [scan, split_intercalate, List.flatMap_map, scan, texts, again]

/-- Tokens that differ in the writing of their numbers at most. -/
inductive Alike : Token → Token → Prop
  | numbers {value other : Decimal} (same : value.SameNumber other) :
      Alike (number value) (number other)
  | refl (token : Token) : Alike token token

theorem alike_reread (token : Token) : Alike token token.reread := by
  cases token with
  | number value => exact .numbers value.sameNumber_reread
  | _ => exact .refl _

theorem text_reread (token : Token) : token.reread.text = token.text := by
  cases token with
  | number value => exact value.plainText_reread.1
  | _ => rfl

/-- The text that is rendered for the tokens of a text is read as these tokens, but for the writing
of their numbers, and is rendered for what was read again, if no sign belongs to a zero. -/
theorem scan_of_renderAll {context : Context} {text shown : String}
    (rendered : renderAll context (scan text) = .ok shown)
    (noSignedZero : NoSignedZero (split text.toList)) :
    List.Forall₂ Alike (scan text) (scan shown) ∧
      renderAll context (scan shown) = .ok shown := by
  have written := eq_of_renderAll rendered
  have read : scan shown = (scan text).map reread := by
    rw [written]
    exact scan_texts noSignedZero
  rw [read]
  refine ⟨?_, ?_⟩
  · apply List.forall₂_map_right_iff.2
    apply List.forall₂_same.2
    intro token member
    exact alike_reread token
  · have again : ∀ value, number value ∈ (scan text).map reread → value.Shown context := by
      intro value member
      rcases List.mem_map.1 member with ⟨token, inTokens, same⟩
      cases token with
      | number value =>
          cases same
          exact (shown_of_renderAll rendered inTokens).reread
      | _ => cases same
    rw [renderAll_of_shown again, written, List.map_map]
    simp [Function.comp_def, text_reread]

/-- Of the two signs in a row one is an operator, and the unknown word is read back as it is. -/
theorem scan_of_renderAll_unknown :
    renderAll Context.default (scan "5--3.50)pi") = .ok "5 - -3.5 ) pi" ∧
      NoSignedZero (split "5--3.50)pi".toList) ∧
      List.Forall₂ Alike (scan "5--3.50)pi") (scan "5 - -3.5 ) pi") := by
  have rendered : renderAll Context.default (scan "5--3.50)pi") = .ok "5 - -3.5 ) pi" := by decide
  have noSignedZero : NoSignedZero (split "5--3.50)pi".toList) := by decide
  exact ⟨rendered, noSignedZero, (scan_of_renderAll rendered noSignedZero).1⟩

/-- The second sign belongs to a zero, so the text does not show it, and the first one takes its
place. -/
example : renderAll Context.default (scan "--0") = .ok "- 0" ∧
    scan "--0" = [operator .minus, number ⟨0, 0⟩] ∧ scan "- 0" = [number ⟨0, 0⟩] := by
  decide

end Token

end DecimalCalculator
