import DecimalCalculator.Proofs.Decimal.Literal
import DecimalCalculator.Proofs.Decimal.Rational

/-!
# The grammar of literals

A literal is a numeral behind at most one sign. A mark `e` or `E` may follow, and then an exponent:
one to nine digits, again behind at most one sign. The literal denotes the number of its numeral
times ten to the power of its exponent.

All literals are read, as the decimal whose digits and scale they show. But the reader takes the
point out before it looks for the sign, and so it reads one form that is no literal: digits behind
a sign that stands right behind a leading point. Every other text is refused.
-/

namespace DecimalCalculator

/-- What may stand behind the base of a literal, with the power of ten that it denotes. -/
inductive ExponentPart : List Char → Int → Prop
  | absent : ExponentPart [] 0
  | written {mark : Char} {digits text : List Char} {power : Int}
      (isMark : Decimal.isExponentMark mark) (nonempty : digits ≠ []) (allDigits : AllDigits digits)
      (short : digits.length ≤ Decimal.exponentDigits) (signed : SignedDigits digits text power) :
      ExponentPart (mark :: text) power

/-- A base with its exponent, if it has one, and the decimal that the two denote. -/
inductive Scaled (Base : List Char → Decimal → Prop) : List Char → Decimal → Prop
  | mk {base text : List Char} {number : Decimal} {power : Int} (based : Base base number)
      (exponent : ExponentPart text power) : Scaled Base (base ++ text) (number.timesTenTo power)

/-- The literals, with the decimals they denote. -/
def IsLiteral : List Char → Decimal → Prop :=
  Scaled SignedNumeral

/-- A digit stands right behind a leading point of a literal. -/
theorem IsLiteral.isDigit_of_point {next : Char} {rest : List Char} {value : Decimal}
    (literal : IsLiteral ('.' :: next :: rest) value) : next.isDigit := by
  generalize point : '.' :: next :: rest = written at literal
  rcases literal with @⟨base, exponent, number, power, signed, -⟩
  cases signed with
  | unsigned numeral =>
      rcases List.append_eq_cons_iff.1 point.symm with ⟨empty, -⟩ | ⟨behind, leading, split⟩
      · exact absurd empty numeral.ne_nil
      · rcases numeral.exists_digit_of_point leading with ⟨digit, others, rfl, isDigit⟩
        rwa [(List.cons.inj split).1]
  | plus numeral | minus numeral => exact absurd (List.cons.inj point).1 (by decide)

/-! ## Signs behind a leading point -/

namespace PointedSign

variable {base : List Char} {number : Decimal}

theorem not_isExponentMark (pointed : PointedSign base number) :
    ∀ character ∈ base, !Decimal.isExponentMark character := by
  cases pointed with
  | plus nonempty allDigits | minus nonempty allDigits =>
      have digits := (Numeral.whole nonempty allDigits).not_isExponentMark
      exact List.forall_mem_cons.2 ⟨rfl, List.forall_mem_cons.2 ⟨rfl, digits⟩⟩

/-- The sign comes to stand in front when the point is taken out. -/
theorem ofBase?_eq (pointed : PointedSign base number) (exponent : ℤ) :
    Decimal.ofBase? base exponent = some (number.timesTenTo exponent) := by
  have takenOut : ∀ fraction, Decimal.ofBase? ('.' :: fraction) exponent =
      (readInteger? fraction).map fun mantissa => ⟨mantissa, fraction.length - exponent⟩ :=
    fun fraction => @Decimal.ofBase?_pointed [] (by simp) fraction exponent
  cases pointed with
  | plus nonempty allDigits =>
      rw [takenOut, allDigits.readInteger?_plus nonempty]
      rfl
  | minus nonempty allDigits =>
      rw [takenOut, allDigits.readInteger?_minus nonempty]
      rfl

end PointedSign

namespace Decimal

/-! ## Literals -/

variable {base text : List Char} {value : Decimal} {power : ℤ}

/-- A base is read with the exponent that stands behind it. -/
theorem ofChars?_append (noMark : ∀ character ∈ base, !isExponentMark character)
    (exponent : ExponentPart text power) : ofChars? (base ++ text) = ofBase? base power := by
  cases exponent with
  | absent => rw [List.append_nil, ofChars?_of_no_mark noMark]
  | @written mark digits exponent power isMark nonempty allDigits short signed =>
      have front : (base ++ mark :: exponent).takeWhile (!isExponentMark ·) = base := by
        rw [List.takeWhile_append_of_pos noMark, List.takeWhile_cons_of_neg (by simp [isMark]),
          List.append_nil]
      have behind :
          (base ++ mark :: exponent).dropWhile (!isExponentMark ·) = mark :: exponent := by
        rw [List.dropWhile_append_of_pos noMark, List.dropWhile_cons_of_neg (by simp [isMark])]
      simp only [ofChars?, front, behind, signed.dropWhile_isSign allDigits, short, if_true,
        signed.readInteger?_eq nonempty allDigits, Option.bind_some]

theorem exponentPart_of_readInteger? {exponent : List Char} {mark : Char}
    (isMark : isExponentMark mark)
    (short : (exponent.dropWhile isSign).length ≤ exponentDigits)
    (integer : readInteger? exponent = some power) : ExponentPart (mark :: exponent) power := by
  rcases readInteger?_cases integer with ⟨digits, nonempty, allDigits, signed⟩
  rw [signed.dropWhile_isSign allDigits] at short
  exact .written isMark nonempty allDigits short signed

/-- A text that is read is a base of one of two kinds with its exponent. -/
theorem scaled_of_ofChars? (read : ofChars? text = some value) :
    Scaled SignedNumeral text value ∨ Scaled PointedSign text value := by
  have split : ∃ base exponent power, text = base ++ exponent ∧ ExponentPart exponent power ∧
      ofBase? base power = some value := by
    rcases ofChars?_parts read with based |
      ⟨base, mark, exponent, power, written, isMark, short, integer, based⟩
    · exact ⟨text, [], 0, (List.append_nil text).symm, .absent, based⟩
    · exact ⟨base, mark :: exponent, power, written,
        exponentPart_of_readInteger? isMark short integer, based⟩
  rcases split with ⟨base, exponent, power, rfl, written, based⟩
  rcases ofBase?_cases based with ⟨number, signed | pointed, rfl⟩
  · exact .inl ⟨signed, written⟩
  · exact .inr ⟨pointed, written⟩

/-- Exactly the literals are read, as the decimals they denote, and besides them the digits behind
a sign that stands right behind a leading point, with or without an exponent. -/
theorem parse?_eq_some_iff (text : String) (value : Decimal) :
    parse? text = some value ↔
      IsLiteral text.toList value ∨ Scaled PointedSign text.toList value := by
  rw [parse?]
  generalize text.toList = characters
  constructor
  · exact scaled_of_ofChars?
  · rintro (⟨signed, exponent⟩ | ⟨pointed, exponent⟩)
    · rw [ofChars?_append signed.not_isExponentMark exponent, signed.ofBase?_eq]
    · rw [ofChars?_append pointed.not_isExponentMark exponent, pointed.ofBase?_eq]

/-- The text is no literal, since no digit follows its point. It is read all the same. -/
theorem parse?_pointed_sign :
    parse? ".-5" = some ⟨-5, 2⟩ ∧ ¬∃ value, IsLiteral ".-5".toList value := by
  refine ⟨by decide, ?_⟩
  rintro ⟨value, literal⟩
  exact absurd literal.isDigit_of_point (by decide)

end Decimal

end DecimalCalculator
