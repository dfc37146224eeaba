import DecimalCalculator.Proofs.Decimal.SameNumber
import DecimalCalculator.Proofs.Evaluation.Literal
import DecimalCalculator.Proofs.Token.Continuation

/-!
# Zeros in front of a text

A zero in front of a numeral is read with it and changes nothing. The numeral denotes the same
decimal, so that all tokens stay as they are; and a text that is a literal stays one, of the same
decimal.

So a zero can also be put in front of a text that begins with a point, if a digit follows. If a
sign follows, the text may be a literal all the same, of a fraction with a sign; with the zero it is
a difference or a sum.
-/

namespace DecimalCalculator

open Token

/-! ## Texts that are answered alike -/

/-- Whether two texts are answered by texts of one number, or both by the marker. -/
inductive AnsweredAlike (context : Context) (text other : String) : Prop
  | numbers {number otherNumber : Decimal}
      (read : Decimal.parse? (answer context text) = some number)
      (otherRead : Decimal.parse? (answer context other) = some otherNumber)
      (same : number.SameNumber otherNumber) : AnsweredAlike context text other
  | failures (failed : answer context text = errorMarker)
      (otherFailed : answer context other = errorMarker) : AnsweredAlike context text other

namespace AnsweredAlike

variable {context : Context} {text other third : String}

theorem of_eq (same : answer context text = answer context other) :
    AnsweredAlike context text other := by
  cases evaluated : evaluate context text with
  | error cause =>
      have failed := answer_of_failure evaluated
      exact .failures failed (same.symm.trans failed)
  | ok evaluation =>
      rcases Option.isSome_iff_exists.1 (parse?_answer_of_evaluate evaluated) with ⟨number, read⟩
      exact .numbers read (same ▸ read) (.refl number)

theorem symm (alike : AnsweredAlike context text other) : AnsweredAlike context other text := by
  cases alike with
  | numbers read otherRead same => exact .numbers otherRead read (Eq.symm same)
  | failures failed otherFailed => exact .failures otherFailed failed

theorem trans (alike : AnsweredAlike context text other)
    (otherAlike : AnsweredAlike context other third) : AnsweredAlike context text third := by
  cases alike with
  | numbers read otherRead same =>
      cases otherAlike with
      | numbers middleRead thirdRead sameThird =>
          cases Option.some.inj (otherRead.symm.trans middleRead)
          exact .numbers read thirdRead (Eq.trans same sameThird)
      | failures failed thirdFailed => simp [failed, parse?_errorMarker] at otherRead
  | failures failed otherFailed =>
      cases otherAlike with
      | numbers middleRead thirdRead sameThird =>
          simp [otherFailed, parse?_errorMarker] at middleRead
      | failures middleFailed thirdFailed => exact .failures failed thirdFailed

theorem ne_errorMarker (alike : AnsweredAlike context text other)
    (answered : answer context other ≠ errorMarker) : answer context text ≠ errorMarker := by
  cases alike with
  | numbers read otherRead same =>
      intro failed
      simp [failed, parse?_errorMarker] at read
  | failures failed otherFailed => exact absurd otherFailed answered

theorem exists_number (alike : AnsweredAlike context text other)
    (answered : answer context other ≠ errorMarker) :
    ∃ number otherNumber, Decimal.parse? (answer context text) = some number ∧
      Decimal.parse? (answer context other) = some otherNumber ∧
      number.SameNumber otherNumber := by
  cases alike with
  | numbers read otherRead same => exact ⟨_, _, read, otherRead, same⟩
  | failures failed otherFailed => exact absurd otherFailed answered

end AnsweredAlike

/-! ## A zero in front of a numeral -/

/-- Whether a text begins with a digit, or with a point and a digit. -/
inductive BeginsNumeral : List Char → Prop
  | digit {first : Char} (isDigit : first.isDigit) (rest : List Char) :
      BeginsNumeral (first :: rest)
  | point {first : Char} (isDigit : first.isDigit) (rest : List Char) :
      BeginsNumeral ('.' :: first :: rest)

theorem readInteger?_zero_cons {first : Char} (isDigit : first.isDigit) (rest : List Char) :
    readInteger? ('0' :: first :: rest) = readInteger? (first :: rest) := by
  have notMinus : first ≠ '-' := by
    rintro rfl
    exact absurd isDigit (by decide)
  have notPlus : first ≠ '+' := by
    rintro rfl
    exact absurd isDigit (by decide)
  simp [readInteger?, readDigits?, notMinus, notPlus, Nat.ofDigitChars_cons]

theorem not_isExponentMark_of_isDigit {character : Char} (isDigit : character.isDigit) :
    (!Decimal.isExponentMark character) = true := by
  cases mark : Decimal.isExponentMark character with
  | false => rfl
  | true =>
      rcases Decimal.eq_of_isExponentMark mark with rfl | rfl <;> exact absurd isDigit (by decide)

theorem ne_point_of_isDigit {character : Char} (isDigit : character.isDigit) :
    (character != '.') = true := by
  apply bne_iff_ne.2
  rintro rfl
  exact absurd isDigit (by decide)

namespace BeginsNumeral

variable {text : List Char}

theorem ofBase?_zero_cons (begins : BeginsNumeral text) (exponent : Int) :
    Decimal.ofBase? ('0' :: text) exponent = Decimal.ofBase? text exponent := by
  cases begins with
  | digit isDigit rest =>
      have notPoint := ne_point_of_isDigit isDigit
      simp [Decimal.ofBase?, notPoint, readInteger?_zero_cons isDigit]
  | point isDigit rest => simp [Decimal.ofBase?, readInteger?_zero_cons isDigit]

theorem takeWhile (begins : BeginsNumeral text) :
    BeginsNumeral (text.takeWhile (!Decimal.isExponentMark ·)) := by
  cases begins with
  | digit isDigit rest =>
      simp only [List.takeWhile_cons, not_isExponentMark_of_isDigit isDigit, if_true]
      exact .digit isDigit _
  | point isDigit rest =>
      simp only [List.takeWhile_cons, not_isExponentMark_of_isDigit isDigit, if_true]
      exact .point isDigit _

theorem ofChars?_zero_cons (begins : BeginsNumeral text) :
    Decimal.ofChars? ('0' :: text) = Decimal.ofChars? text := by
  have mark : (!Decimal.isExponentMark '0') = true := rfl
  have base : Decimal.ofBase? ('0' :: text.takeWhile (!Decimal.isExponentMark ·)) =
      Decimal.ofBase? (text.takeWhile (!Decimal.isExponentMark ·)) := by
    funext exponent
    exact begins.takeWhile.ofBase?_zero_cons exponent
  simp only [Decimal.ofChars?, List.takeWhile_cons, List.dropWhile_cons, mark, if_true, base]

theorem kindOf_head? (begins : BeginsNumeral text) :
    text.head?.bind Lexeme.kindOf = some .numeral := by
  cases begins with
  | digit isDigit rest => simp [Lexeme.kindOf, isDigit]
  | point isDigit rest => rfl

/-- The first lexeme begins as the text does, and a zero in front of the text belongs to it. -/
theorem split_eq (begins : BeginsNumeral text) :
    ∃ lexeme rest, BeginsNumeral lexeme ∧ Lexeme.split text = lexeme :: rest ∧
      Lexeme.split ('0' :: text) = ('0' :: lexeme) :: rest := by
  have first : ∃ lexeme rest, BeginsNumeral lexeme ∧ Lexeme.split text = lexeme :: rest := by
    cases begins with
    | @digit character isDigit rest =>
        have known : Lexeme.kindOf character = some .numeral := by
          simp [Lexeme.kindOf, isDigit]
        rcases Lexeme.exists_split_eq_cons known rest with ⟨tail, lexemes, cut⟩
        exact ⟨_, lexemes, .digit isDigit tail, cut⟩
    | @point character isDigit rest =>
        have known : Lexeme.kindOf character = some .numeral := by
          simp [Lexeme.kindOf, isDigit]
        rcases Lexeme.exists_split_eq_cons known rest with ⟨tail, lexemes, cut⟩
        refine ⟨_, lexemes, .point isDigit tail, ?_⟩
        rw [Lexeme.split_cons_run rfl (by simp), List.head?_cons, Option.bind_some, if_pos known,
          cut]
        rfl
  rcases first with ⟨lexeme, rest, beginsLexeme, cut⟩
  refine ⟨lexeme, rest, beginsLexeme, cut, ?_⟩
  rw [Lexeme.split_cons_run rfl (by simp), if_pos begins.kindOf_head?, cut]
  rfl

end BeginsNumeral

/-! ### Lexemes that begin as numerals -/

theorem opensOperand_eq_false {lexeme : Lexeme}
    (begins : lexeme.head?.bind Lexeme.kindOf = some .numeral) : lexeme.opensOperand = false := by
  apply Bool.eq_false_iff.2
  intro opens
  cases (Lexeme.hasKind_of_opensOperand opens).eq_of_head? begins

/-- A lexeme that begins as a numeral and is no number means nothing. -/
theorem ofLexeme_eq_unknown {lexeme : Lexeme}
    (begins : lexeme.head?.bind Lexeme.kindOf = some .numeral)
    (noNumber : Decimal.ofChars? lexeme = none) :
    ofLexeme lexeme = unknown (String.ofList lexeme) := by
  rcases spells_ofLexeme lexeme with ⟨value, isNumber⟩ | same | spells
  · simp [ofChars?_of_ofLexeme isNumber] at noNumber
  · exact same
  · have kind := spells.hasKind.eq_of_head? begins
    generalize ofLexeme lexeme = token at spells kind ⊢
    cases spells with
    | number numeral => simp [numeral.ofChars?_eq] at noNumber
    | _ => cases kind

/-- A lexeme that begins as a numeral is a token by itself, and no operand begins behind it. -/
theorem ofLexemes_numeral {lexeme : Lexeme}
    (begins : lexeme.head?.bind Lexeme.kindOf = some .numeral) (opening : Bool)
    (rest : List Lexeme) :
    ofLexemes opening (lexeme :: rest) = ofLexeme lexeme :: ofLexemes false rest := by
  have noSign : lexeme ≠ ['-'] := by
    rintro rfl
    cases hasKind_minus.eq_of_head? begins
  rw [ofLexemes_single (.inr noSign), opensOperand_eq_false begins]

variable {context : Context} {text : String}

/-! ### Texts that begin as numerals -/

/-- A zero in front of a numeral leaves all tokens as they are, unless the first lexeme means
nothing with the zero and without it. -/
theorem scan_zero_append (begins : BeginsNumeral text.toList) :
    scan ("0" ++ text) = scan text ∨
      (∃ name, unknown name ∈ scan ("0" ++ text)) ∧ ∃ name, unknown name ∈ scan text := by
  rcases begins.split_eq with ⟨lexeme, rest, beginsLexeme, cut, zeroCut⟩
  have characters : ("0" ++ text).toList = '0' :: text.toList := by simp
  have scanned : scan text = ofLexeme lexeme :: ofLexemes false rest := by
    rw [scan, cut, ofLexemes_numeral beginsLexeme.kindOf_head?]
  have zeroScanned : scan ("0" ++ text) = ofLexeme ('0' :: lexeme) :: ofLexemes false rest := by
    rw [scan, characters, zeroCut, ofLexemes_numeral rfl]
  have zeroRead := beginsLexeme.ofChars?_zero_cons
  cases read : Decimal.ofChars? lexeme with
  | some value =>
      left
      have same : ofLexeme ('0' :: lexeme) = ofLexeme lexeme := by
        simp only [ofLexeme, zeroRead, read]
      rw [scanned, zeroScanned, same]
  | none =>
      right
      rw [read] at zeroRead
      rw [scanned, zeroScanned, ofLexeme_eq_unknown beginsLexeme.kindOf_head? read,
        ofLexeme_eq_unknown rfl zeroRead]
      exact ⟨⟨_, List.mem_cons_self⟩, ⟨_, List.mem_cons_self⟩⟩

theorem answer_of_unknown (notLiteral : Decimal.parse? text = none)
    (meaningless : ∃ name, unknown name ∈ scan text) : answer context text = errorMarker := by
  rcases meaningless with ⟨name, member⟩
  have kept := unknown_mem_dropPendingOperator member
  have refused : ∃ cause, Evaluation.ofTokens context (expressionTokens text) = .error cause :=
    evaluation_refused ((ReversePolish.mem_ofTokens (by simp) (by simp) _).2 kept) rfl
  rcases refused with ⟨cause, failed⟩
  apply answer_of_failure
  rw [evaluate, notLiteral]
  exact failed

/-- A zero in front of a numeral does not change the answer but for the way in which a literal is
written. -/
theorem answeredAlike_zero_append (begins : BeginsNumeral text.toList) :
    AnsweredAlike context text ("0" ++ text) := by
  have read : Decimal.parse? ("0" ++ text) = Decimal.parse? text := by
    rw [Decimal.parse?, Decimal.parse?, String.toList_append]
    exact begins.ofChars?_zero_cons
  cases parsed : Decimal.parse? text with
  | some value =>
      rw [parsed] at read
      have own : answer context text = text := answer_of_literal (by simp [parsed])
      have zeroOwn : answer context ("0" ++ text) = "0" ++ text :=
        answer_of_literal (by simp [read])
      exact .numbers (own.symm ▸ parsed) (zeroOwn.symm ▸ read) (.refl value)
  | none =>
      rw [parsed] at read
      rcases scan_zero_append begins with same | ⟨zeroMeaningless, meaningless⟩
      · apply AnsweredAlike.of_eq
        simp only [answer, evaluate, parsed, read, expressionTokens, same, Option.isSome_none,
          Bool.false_eq_true, ↓reduceIte]
      · exact .failures (answer_of_unknown parsed meaningless)
          (answer_of_unknown read zeroMeaningless)

theorem BeginsNumeral.zeros {text : List Char} (begins : BeginsNumeral text) (count : Nat) :
    BeginsNumeral (List.replicate count '0' ++ text) := by
  cases count with
  | zero => exact begins
  | succ count => exact .digit rfl _

theorem answeredAlike_zeros_append (begins : BeginsNumeral text.toList) (count : Nat) :
    AnsweredAlike context text (String.ofList (List.replicate count '0') ++ text) := by
  induction count with
  | zero => exact .of_eq (by simp)
  | succ count ih =>
      have front : String.ofList (List.replicate (count + 1) '0') ++ text =
          "0" ++ (String.ofList (List.replicate count '0') ++ text) := by
        apply String.toList_inj.1
        simp [List.replicate_succ]
      rw [front]
      apply ih.trans
      apply answeredAlike_zero_append
      simpa using begins.zeros count

/-! ## Points in front -/

/-- Whether a text begins with a point and a sign. Some literals do, but no expression. -/
def HasPointedSign (text : List Char) : Prop :=
  ∃ sign rest, Decimal.isSign sign ∧ text = '.' :: sign :: rest

variable {characters rest : List Char} {number value : Decimal}

theorem Numeral.beginsNumeral (numeral : Numeral characters number)
    (point : characters = '.' :: rest) : BeginsNumeral characters := by
  rcases numeral.exists_digit_of_point point with ⟨digit, behind, rfl, isDigit⟩
  rw [point]
  exact .point isDigit behind

theorem beginsNumeral_of_ofBase? {exponent : Int} (point : characters = '.' :: rest)
    (read : Decimal.ofBase? characters exponent = some value)
    (noSign : ¬HasPointedSign characters) : BeginsNumeral characters := by
  rcases Decimal.ofBase?_cases read with ⟨number, signed | pointed, -⟩
  · cases signed with
    | unsigned numeral => exact numeral.beginsNumeral point
    | plus numeral | minus numeral => cases (List.cons.inj point).1
  · exact absurd pointed.exists_sign noSign

/-- A literal with a leading point has a digit behind it, or a sign. -/
theorem beginsNumeral_of_ofChars? (point : characters = '.' :: rest)
    (read : Decimal.ofChars? characters = some value) (noSign : ¬HasPointedSign characters) :
    BeginsNumeral characters := by
  rcases Decimal.ofChars?_parts read with based |
    ⟨base, mark, exponent, power, rfl, isMark, -, -, based⟩
  · exact beginsNumeral_of_ofBase? point based noSign
  · rcases List.append_eq_cons_iff.1 point with ⟨-, behind⟩ | ⟨front, rfl, -⟩
    · rw [(List.cons.inj behind).1] at isMark
      exact absurd isMark (by decide)
    · have begins : BeginsNumeral ('.' :: front) := by
        refine beginsNumeral_of_ofBase? rfl based ?_
        rintro ⟨sign, digits, isSign, written⟩
        exact noSign ⟨sign, digits ++ mark :: exponent, isSign, by rw [written]; rfl⟩
      cases begins with
      | digit isDigit => exact absurd isDigit (by decide)
      | point isDigit behind => exact .point isDigit _

/-- A first lexeme with a leading point means nothing unless a digit follows. -/
theorem beginsNumeral_of_known (point : characters = '.' :: rest)
    (known : ∀ name, unknown name ∉ ofLexemes true (Lexeme.split characters)) :
    BeginsNumeral characters := by
  have isNumeral : Lexeme.kindOf '.' = some .numeral := rfl
  have cut := Lexeme.split_cons_run isNumeral (by simp) rest
  subst point
  split at cut
  next goesOn =>
    rcases Option.bind_eq_some_iff.1 goesOn with ⟨next, isNext, nextKind⟩
    rcases List.head?_eq_some_iff.1 isNext with ⟨more, rfl⟩
    rcases Lexeme.exists_split_eq_cons nextKind more with ⟨tail, lexemes, behind⟩
    rw [cut, behind, Lexeme.extend, ofLexemes_numeral rfl] at known
    cases read : Decimal.ofChars? ('.' :: next :: tail) with
    | none =>
        refine absurd ?_ (known (String.ofList ('.' :: next :: tail)))
        rw [ofLexeme_eq_unknown rfl read]
        exact List.mem_cons_self
    | some value =>
        have noSign : ¬HasPointedSign ('.' :: next :: tail) := by
          rintro ⟨sign, digits, isSign, same⟩
          rw [(List.cons.inj (List.cons.inj same).2).1] at nextKind
          rcases Decimal.eq_of_isSign isSign with rfl | rfl <;> cases nextKind
        cases beginsNumeral_of_ofChars? rfl read noSign with
        | digit isDigit => exact absurd isDigit (by decide)
        | point isDigit => exact .point isDigit more
  next =>
    rw [cut, ofLexemes_numeral rfl] at known
    exact absurd List.mem_cons_self (known ".")

/-- A text with an answer that begins with a point begins with a numeral, unless a sign follows. -/
theorem beginsNumeral_of_answer (answered : answer context text ≠ errorMarker)
    (point : text.toList = '.' :: rest) (noSign : ¬HasPointedSign text.toList) :
    BeginsNumeral text.toList := by
  cases parsed : Decimal.parse? text with
  | some value => exact beginsNumeral_of_ofChars? point parsed noSign
  | none =>
      apply beginsNumeral_of_known point
      intro name member
      exact answered (answer_of_unknown parsed ⟨name, member⟩)

end DecimalCalculator
