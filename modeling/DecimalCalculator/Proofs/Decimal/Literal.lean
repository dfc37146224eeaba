import DecimalCalculator.Proofs.Decimal.Numeral

/-!
# The shapes of literals

A text that is read as a literal has one of three shapes. It is a numeral, possibly behind one
sign; or it has a sign right behind a leading point; or it has an exponent. Only a text of the
first shape can be written in an expression, where a sign is a lexeme of its own and an exponent
mark is a word.

The shapes are found by going back through the reader: an integer is a run of digits behind at
most one sign, the base is an integer into which a point may have been put, and the literal is a
base with or without an exponent.
-/

namespace DecimalCalculator

/-- A numeral, possibly behind one sign, with the decimal it denotes. -/
inductive SignedNumeral : List Char → Decimal → Prop
  | unsigned {text : List Char} {value : Decimal} (numeral : Numeral text value) :
      SignedNumeral text value
  | plus {text : List Char} {value : Decimal} (numeral : Numeral text value) :
      SignedNumeral ('+' :: text) value
  | minus {text : List Char} {value : Decimal} (numeral : Numeral text value) :
      SignedNumeral ('-' :: text) value.neg

/-- Digits behind a sign that stands right behind a leading point. The sign is counted as one more
decimal. -/
inductive PointedSign : List Char → Decimal → Prop
  | plus {digits : List Char} (nonempty : digits ≠ []) (allDigits : AllDigits digits) :
      PointedSign ('.' :: '+' :: digits) ⟨Nat.ofDigitChars 10 digits 0, digits.length + 1⟩
  | minus {digits : List Char} (nonempty : digits ≠ []) (allDigits : AllDigits digits) :
      PointedSign ('.' :: '-' :: digits) ⟨-(Nat.ofDigitChars 10 digits 0 : Int), digits.length + 1⟩

theorem PointedSign.exists_sign {text : List Char} {value : Decimal}
    (pointed : PointedSign text value) :
    ∃ sign digits, Decimal.isSign sign ∧ text = '.' :: sign :: digits := by
  cases pointed with
  | plus nonempty allDigits => exact ⟨'+', _, rfl, rfl⟩
  | minus nonempty allDigits => exact ⟨'-', _, rfl, rfl⟩

namespace SignedNumeral

variable {text : List Char} {value : Decimal}

theorem not_isExponentMark (signed : SignedNumeral text value) :
    ∀ character ∈ text, !Decimal.isExponentMark character := by
  cases signed with
  | unsigned numeral => exact numeral.not_isExponentMark
  | plus numeral | minus numeral =>
      exact List.forall_mem_cons.2 ⟨rfl, numeral.not_isExponentMark⟩

theorem ofBase?_eq (signed : SignedNumeral text value) (exponent : Int) :
    Decimal.ofBase? text exponent = some (value.timesTenTo exponent) := by
  cases signed with
  | unsigned numeral => exact numeral.ofBase?_eq exponent
  | plus numeral => exact numeral.ofBase?_plus exponent
  | minus numeral => exact numeral.ofBase?_minus exponent

/-- A numeral behind at most one sign is a literal of the decimal it denotes. -/
theorem ofChars?_eq (signed : SignedNumeral text value) :
    Decimal.ofChars? text = some value := by
  rw [Decimal.ofChars?_of_no_mark signed.not_isExponentMark, signed.ofBase?_eq,
    Decimal.timesTenTo_zero]

end SignedNumeral

/-! ## Integers -/

theorem readDigits?_eq_some {text : List Char} {number : Nat}
    (read : readDigits? text = some number) :
    text ≠ [] ∧ AllDigits text ∧ number = Nat.ofDigitChars 10 text 0 := by
  simp only [readDigits?] at read
  split at read
  · cases read
  next proper =>
    simp only [Bool.or_eq_true, List.isEmpty_iff, Bool.not_eq_true', not_or,
      Bool.not_eq_false] at proper
    exact ⟨proper.1, List.all_eq_true.1 proper.2, (Option.some.inj read).symm⟩

/-- Digits, possibly behind one sign, with the integer they denote. -/
inductive SignedDigits (digits : List Char) : List Char → Int → Prop
  | unsigned : SignedDigits digits digits (Nat.ofDigitChars 10 digits 0)
  | plus : SignedDigits digits ('+' :: digits) (Nat.ofDigitChars 10 digits 0)
  | minus : SignedDigits digits ('-' :: digits) (-(Nat.ofDigitChars 10 digits 0 : Int))

theorem SignedDigits.readInteger?_eq {digits text : List Char} {number : Int}
    (signed : SignedDigits digits text number) (nonempty : digits ≠ [])
    (allDigits : AllDigits digits) : readInteger? text = some number := by
  cases signed with
  | unsigned => exact allDigits.readInteger? nonempty
  | plus => exact allDigits.readInteger?_plus nonempty
  | minus => exact allDigits.readInteger?_minus nonempty

/-- What stands behind the signs is the digits. -/
theorem SignedDigits.dropWhile_isSign {digits text : List Char} {number : Int}
    (signed : SignedDigits digits text number) (allDigits : AllDigits digits) :
    text.dropWhile Decimal.isSign = digits := by
  have unsigned : digits.dropWhile Decimal.isSign = digits := by
    cases digits with
    | nil => rfl
    | cons first rest =>
        have notPlus : first ≠ '+' := allDigits.ne_of_mem List.mem_cons_self rfl
        have notMinus : first ≠ '-' := allDigits.ne_of_mem List.mem_cons_self rfl
        exact List.dropWhile_cons_of_neg (by simp [Decimal.isSign, notPlus, notMinus])
  cases signed with
  | unsigned => exact unsigned
  | plus | minus => rw [List.dropWhile_cons_of_pos rfl, unsigned]

/-- A text that is read as an integer is a run of digits behind at most one sign. -/
theorem readInteger?_cases {text : List Char} {number : Int}
    (read : readInteger? text = some number) :
    ∃ digits, digits ≠ [] ∧ AllDigits digits ∧ SignedDigits digits text number := by
  simp only [readInteger?] at read
  split at read <;>
    simp only [Option.map_eq_some_iff, Option.bind_eq_bind, Option.bind_eq_some_iff,
      Option.pure_def, Option.some.injEq] at read <;>
    rcases read with ⟨integer, ⟨magnitude, digitsRead, rfl⟩, rfl⟩ <;>
    rcases readDigits?_eq_some digitsRead with ⟨nonempty, allDigits, rfl⟩
  · exact ⟨_, nonempty, allDigits, .minus⟩
  · exact ⟨_, nonempty, allDigits, .plus⟩
  · exact ⟨_, nonempty, allDigits, .unsigned⟩

namespace Decimal

/-- The characters of a literal, exponent marks apart. -/
def IsPlainCharacter (character : Char) : Prop :=
  character.isDigit ∨ character = '.' ∨ isSign character

theorem isPlainCharacter_of_allDigits {digits : List Char} (allDigits : AllDigits digits) :
    ∀ character ∈ digits, IsPlainCharacter character :=
  fun character member => .inl (allDigits character member)

theorem isPlainCharacter_of_readInteger? {text : List Char} {number : Int}
    (read : readInteger? text = some number) :
    ∀ character ∈ text, IsPlainCharacter character := by
  rcases readInteger?_cases read with ⟨digits, -, allDigits, signed⟩
  have plain := isPlainCharacter_of_allDigits allDigits
  cases signed with
  | unsigned => exact plain
  | plus | minus => exact List.forall_mem_cons.2 ⟨.inr (.inr rfl), plain⟩

/-! ## Bases -/

/-- A text is the two parts of a base if it is the first one, or both with a point between. -/
def IsParted (text whole fraction : List Char) : Prop :=
  text = whole ∧ fraction = [] ∨ text = whole ++ '.' :: fraction

theorem ofBase?_parts {base : List Char} {exponent : Int} {value : Decimal}
    (read : ofBase? base exponent = some value) :
    ∃ whole fraction mantissa, IsParted base whole fraction ∧
      readInteger? (whole ++ fraction) = some mantissa ∧
      value = ⟨mantissa, fraction.length - exponent⟩ := by
  simp only [ofBase?] at read
  rcases Option.map_eq_some_iff.1 read with ⟨mantissa, integer, rfl⟩
  refine ⟨_, _, mantissa, ?_, integer, rfl⟩
  have parts := List.takeWhile_append_dropWhile (p := (· != '.')) (l := base)
  cases behind : base.dropWhile (· != '.') with
  | nil =>
      left
      rw [behind, List.append_nil] at parts
      exact ⟨parts.symm, rfl⟩
  | cons point fraction =>
      right
      have notDropped := List.head?_dropWhile_not (· != '.') base
      rw [behind] at parts notDropped
      have isPoint : point = '.' := by simpa using notDropped
      rw [isPoint] at parts
      exact parts.symm

theorem IsParted.numeral {text whole fraction : List Char} (parted : IsParted text whole fraction)
    (nonempty : whole ++ fraction ≠ []) (allDigits : AllDigits (whole ++ fraction)) :
    Numeral text ⟨Nat.ofDigitChars 10 (whole ++ fraction) 0, fraction.length⟩ := by
  rcases parted with ⟨rfl, rfl⟩ | rfl
  · rw [List.append_nil] at nonempty allDigits ⊢
    exact .whole nonempty allDigits
  · exact .pointed nonempty allDigits

/-- A sign in front of the digits of a base stands in front of the base, or right behind a
leading point. -/
theorem IsParted.signed {text whole fraction digits : List Char} {sign : Char}
    (parted : IsParted text whole fraction) (split : whole ++ fraction = sign :: digits)
    (nonempty : digits ≠ []) (allDigits : AllDigits digits) :
    (∃ numeral, text = sign :: numeral ∧
      Numeral numeral ⟨Nat.ofDigitChars 10 digits 0, fraction.length⟩) ∨
      text = '.' :: sign :: digits ∧ fraction = sign :: digits := by
  rcases List.append_eq_cons_iff.1 split with ⟨rfl, rfl⟩ | ⟨front, rfl, rfl⟩
  · rcases parted with ⟨-, empty⟩ | rfl
    · cases empty
    · exact .inr ⟨rfl, rfl⟩
  · left
    rcases parted with ⟨rfl, rfl⟩ | rfl
    · exact ⟨front, rfl, IsParted.numeral (.inl ⟨rfl, rfl⟩) nonempty allDigits⟩
    · exact ⟨front ++ '.' :: fraction, rfl, IsParted.numeral (.inr rfl) nonempty allDigits⟩

/-- A base is a numeral behind at most one sign, or has a sign right behind a leading point. -/
theorem ofBase?_cases {base : List Char} {exponent : Int} {value : Decimal}
    (read : ofBase? base exponent = some value) :
    ∃ number, (SignedNumeral base number ∨ PointedSign base number) ∧
      value = number.timesTenTo exponent := by
  rcases ofBase?_parts read with ⟨whole, fraction, mantissa, parted, integer, rfl⟩
  rcases readInteger?_cases integer with ⟨digits, nonempty, allDigits, signed⟩
  refine ⟨⟨mantissa, fraction.length⟩, ?_, rfl⟩
  generalize split : whole ++ fraction = text at signed
  cases signed with
  | unsigned =>
      subst split
      exact .inl (.unsigned (parted.numeral nonempty allDigits))
  | plus =>
      rcases parted.signed split nonempty allDigits with ⟨text, rfl, numeral⟩ | ⟨rfl, rfl⟩
      · exact .inl (.plus numeral)
      · exact .inr (.plus nonempty allDigits)
  | minus =>
      rcases parted.signed split nonempty allDigits with ⟨text, rfl, numeral⟩ | ⟨rfl, rfl⟩
      · exact .inl (.minus numeral)
      · exact .inr (.minus nonempty allDigits)

theorem isPlainCharacter_of_ofBase? {base : List Char} {exponent : Int} {value : Decimal}
    (read : ofBase? base exponent = some value) :
    ∀ character ∈ base, IsPlainCharacter character := by
  rcases ofBase?_parts read with ⟨whole, fraction, mantissa, parted, integer, -⟩
  have parts := isPlainCharacter_of_readInteger? integer
  rcases parted with ⟨rfl, rfl⟩ | rfl
  · simpa using parts
  · rw [List.forall_mem_append] at parts ⊢
    exact ⟨parts.1, List.forall_mem_cons.2 ⟨.inr (.inl rfl), parts.2⟩⟩

/-! ## Literals -/

theorem eq_of_isExponentMark {character : Char} (mark : isExponentMark character) :
    character = 'e' ∨ character = 'E' := by
  simpa [isExponentMark] using mark

/-- A literal is a base, by itself or with an exponent mark and a short exponent behind it. -/
theorem ofChars?_parts {text : List Char} {value : Decimal} (read : ofChars? text = some value) :
    ofBase? text 0 = some value ∨
      ∃ base mark exponent power, text = base ++ mark :: exponent ∧ isExponentMark mark ∧
        (exponent.dropWhile isSign).length ≤ exponentDigits ∧
        readInteger? exponent = some power ∧ ofBase? base power = some value := by
  simp only [ofChars?] at read
  have parts := List.takeWhile_append_dropWhile (p := (!isExponentMark ·)) (l := text)
  cases behind : text.dropWhile (!isExponentMark ·) with
  | nil =>
      left
      rw [behind, List.append_nil] at parts
      rwa [behind, parts] at read
  | cons mark exponent =>
      right
      have isMark := List.head?_dropWhile_not (!isExponentMark ·) text
      rw [behind] at parts isMark
      simp only [behind] at read
      split at read
      next short =>
        rcases Option.bind_eq_some_iff.1 read with ⟨power, integer, based⟩
        exact ⟨_, mark, exponent, power, parts.symm, by simpa using isMark, short, integer, based⟩
      next => cases read

/-- The three shapes of a literal: a numeral behind at most one sign, a sign right behind a
leading point, and a literal with an exponent. -/
theorem ofChars?_cases {text : List Char} {value : Decimal} (read : ofChars? text = some value) :
    SignedNumeral text value ∨ (∃ sign digits, isSign sign ∧ text = '.' :: sign :: digits) ∨
      ∃ base mark exponent, text = base ++ mark :: exponent ∧ isExponentMark mark ∧
        ∀ character ∈ base ++ exponent, IsPlainCharacter character := by
  rcases ofChars?_parts read with based |
    ⟨base, mark, exponent, power, written, isMark, -, integer, based⟩
  · rcases ofBase?_cases based with ⟨number, signed | pointed, rfl⟩
    · rw [timesTenTo_zero]
      exact .inl signed
    · exact .inr (.inl pointed.exists_sign)
  · refine .inr (.inr ⟨base, mark, exponent, written, isMark, ?_⟩)
    exact List.forall_mem_append.2
      ⟨isPlainCharacter_of_ofBase? based, isPlainCharacter_of_readInteger? integer⟩

theorem isPlainCharacter_of_ofChars? {text : List Char} {value : Decimal}
    (read : ofChars? text = some value) :
    ∀ character ∈ text, IsPlainCharacter character ∨ isExponentMark character := by
  rcases ofChars?_parts read with based |
    ⟨base, mark, exponent, power, rfl, isMark, -, integer, based⟩
  · exact fun character member => .inl (isPlainCharacter_of_ofBase? based character member)
  · refine List.forall_mem_append.2 ⟨?_, List.forall_mem_cons.2 ⟨.inr isMark, ?_⟩⟩
    · exact fun character member => .inl (isPlainCharacter_of_ofBase? based character member)
    · exact fun character member => .inl (isPlainCharacter_of_readInteger? integer character member)

/-- A literal ends with a digit or a point. -/
theorem getLast?_of_ofChars? {text : List Char} {value : Decimal}
    (read : ofChars? text = some value) :
    ∀ last ∈ text.getLast?, last.isDigit ∨ last = '.' := by
  -- Whatever stands in front, there is a run of digits and points at the end.
  have ends {run : List Char} (front : List Char) (nonempty : run ≠ [])
      (plain : ∀ character ∈ run, character.isDigit ∨ character = '.') :
      ∀ last ∈ (front ++ run).getLast?, last.isDigit ∨ last = '.' := by
    intro last isLast
    rw [List.getLast?_append, List.getLast?_eq_some_getLast nonempty, Option.some_or] at isLast
    rw [← Option.some.inj isLast]
    exact plain _ (List.getLast_mem nonempty)
  have endsInDigits {digits : List Char} (front : List Char) (nonempty : digits ≠ [])
      (allDigits : AllDigits digits) :=
    ends front nonempty fun character member => .inl (allDigits character member)
  rcases ofChars?_parts read with based | ⟨base, mark, exponent, power, rfl, -, -, integer, -⟩
  · rcases ofBase?_cases based with ⟨number, signed | pointed, -⟩
    · cases signed with
      | unsigned numeral => exact ends [] numeral.ne_nil numeral.isDigit_or_eq_point
      | plus numeral => exact ends ['+'] numeral.ne_nil numeral.isDigit_or_eq_point
      | minus numeral => exact ends ['-'] numeral.ne_nil numeral.isDigit_or_eq_point
    · cases pointed with
      | plus nonempty allDigits => exact endsInDigits ['.', '+'] nonempty allDigits
      | minus nonempty allDigits => exact endsInDigits ['.', '-'] nonempty allDigits
  · rcases readInteger?_cases integer with ⟨digits, nonempty, allDigits, signed⟩
    cases signed with
    | unsigned => simpa using endsInDigits (base ++ [mark]) nonempty allDigits
    | plus => simpa using endsInDigits (base ++ [mark, '+']) nonempty allDigits
    | minus => simpa using endsInDigits (base ++ [mark, '-']) nonempty allDigits

/-- A text with a character that no literal has is no literal. -/
theorem parse?_eq_none_of_mem {text : String} {character : Char} (member : character ∈ text.toList)
    (foreign : ¬IsPlainCharacter character) (noMark : ¬isExponentMark character) :
    parse? text = none := by
  cases read : parse? text with
  | none => rfl
  | some value =>
      rcases isPlainCharacter_of_ofChars? read character member with plain | mark
      · exact absurd plain foreign
      · exact absurd mark noMark

theorem parse?_eq_none_of_openParen {text : String} (member : '(' ∈ text.toList) :
    parse? text = none :=
  parse?_eq_none_of_mem member (by rw [IsPlainCharacter]; decide) (by decide)

end Decimal

end DecimalCalculator
