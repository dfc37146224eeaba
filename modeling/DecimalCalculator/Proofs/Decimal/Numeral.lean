import DecimalCalculator.Decimal.Literal
import Mathlib.Data.List.TakeWhile

/-!
# Numerals

A numeral is a run of digits with at most one point in it and at least one digit. It has no
sign and no exponent, and denotes the decimal whose mantissa is the run without its point and
whose scale is the number of digits behind the point.

Every numeral is a literal of the decimal it denotes, and a minus sign in front of it makes a
literal of the opposite. These are the literals of an expression, where signs and exponents are
not read as parts of a number, and the texts of answers are among them.
-/

namespace DecimalCalculator

def AllDigits (text : List Char) : Prop :=
  ∀ character ∈ text, character.isDigit

instance (text : List Char) : Decidable (AllDigits text) :=
  List.decidableBAll (fun character : Char => character.isDigit = true) text

/-- The numerals, with the decimals they denote. -/
inductive Numeral : List Char → Decimal → Prop
  | whole {digits : List Char} (nonempty : digits ≠ []) (allDigits : AllDigits digits) :
      Numeral digits ⟨Nat.ofDigitChars 10 digits 0, 0⟩
  | pointed {whole fraction : List Char} (nonempty : whole ++ fraction ≠ [])
      (allDigits : AllDigits (whole ++ fraction)) :
      Numeral (whole ++ '.' :: fraction)
        ⟨Nat.ofDigitChars 10 (whole ++ fraction) 0, fraction.length⟩

namespace AllDigits

variable {digits : List Char}

theorem ne_of_mem (allDigits : AllDigits digits) {character other : Char}
    (member : character ∈ digits) (notDigit : other.isDigit = false) : character ≠ other := by
  rintro rfl
  exact absurd (allDigits character member) (by simp [notDigit])

theorem left {front back : List Char} (allDigits : AllDigits (front ++ back)) :
    AllDigits front :=
  fun character member => allDigits character (List.mem_append_left back member)

theorem right {front back : List Char} (allDigits : AllDigits (front ++ back)) :
    AllDigits back :=
  fun character member => allDigits character (List.mem_append_right front member)

theorem append {front back : List Char} (frontDigits : AllDigits front)
    (backDigits : AllDigits back) : AllDigits (front ++ back) := by
  intro character member
  rcases List.mem_append.1 member with inFront | inBack
  · exact frontDigits character inFront
  · exact backDigits character inBack

theorem zeros (count : Nat) : AllDigits (List.replicate count '0') := by
  intro character member
  rw [List.eq_of_mem_replicate member]
  rfl

theorem leftpad (allDigits : AllDigits digits) (width : Nat) :
    AllDigits (digits.leftpad width '0') :=
  (zeros (width - digits.length)).append allDigits

theorem readDigits? (allDigits : AllDigits digits) (nonempty : digits ≠ []) :
    readDigits? digits = some (Nat.ofDigitChars 10 digits 0) := by
  have all : digits.all Char.isDigit = true := List.all_eq_true.2 allDigits
  simp [DecimalCalculator.readDigits?, nonempty, all]

theorem readInteger? (allDigits : AllDigits digits) (nonempty : digits ≠ []) :
    readInteger? digits = some (Nat.ofDigitChars 10 digits 0 : Int) := by
  cases digits with
  | nil => exact absurd rfl nonempty
  | cons first rest =>
      have notMinus : first ≠ '-' := allDigits.ne_of_mem List.mem_cons_self rfl
      have notPlus : first ≠ '+' := allDigits.ne_of_mem List.mem_cons_self rfl
      simp [DecimalCalculator.readInteger?, notMinus, notPlus, allDigits.readDigits? nonempty]

theorem readInteger?_plus (allDigits : AllDigits digits) (nonempty : digits ≠ []) :
    DecimalCalculator.readInteger? ('+' :: digits) = some (Nat.ofDigitChars 10 digits 0 : Int) := by
  simp [DecimalCalculator.readInteger?, allDigits.readDigits? nonempty]

theorem readInteger?_minus (allDigits : AllDigits digits) (nonempty : digits ≠ []) :
    DecimalCalculator.readInteger? ('-' :: digits) =
      some (-(Nat.ofDigitChars 10 digits 0 : Int)) := by
  simp [DecimalCalculator.readInteger?, allDigits.readDigits? nonempty]

end AllDigits

namespace Decimal

theorem eq_of_isSign {character : Char} (sign : isSign character) :
    character = '+' ∨ character = '-' := by
  simpa [isSign] using sign

/-- The decimal with the same digits for the number times a power of ten. -/
def timesTenTo (value : Decimal) (power : Int) : Decimal :=
  ⟨value.mantissa, value.scale - power⟩

@[simp]
theorem timesTenTo_zero (value : Decimal) : value.timesTenTo 0 = value := by
  simp [timesTenTo]

/-! ## Literals without an exponent -/

theorem ofChars?_of_no_mark {text : List Char}
    (plain : ∀ character ∈ text, !isExponentMark character) :
    ofChars? text = ofBase? text 0 := by
  rw [ofChars?, List.dropWhile_eq_nil_iff.2 plain]
  simp only [List.takeWhile_eq_self_iff.2 plain]

theorem ofBase?_of_no_point {base : List Char} (integral : ∀ character ∈ base, character != '.')
    (exponent : Int) :
    ofBase? base exponent = (readInteger? base).map fun mantissa => ⟨mantissa, -exponent⟩ := by
  simp [ofBase?, List.takeWhile_eq_self_iff.2 integral, List.dropWhile_eq_nil_iff.2 integral]

theorem ofBase?_pointed {whole : List Char} (integral : ∀ character ∈ whole, character != '.')
    (fraction : List Char) (exponent : Int) :
    ofBase? (whole ++ '.' :: fraction) exponent =
      (readInteger? (whole ++ fraction)).map fun mantissa =>
        ⟨mantissa, fraction.length - exponent⟩ := by
  simp only [ofBase?]
  rw [List.takeWhile_append_of_pos integral, List.dropWhile_append_of_pos integral]
  simp

end Decimal

/-! ## Reading numerals -/

namespace Numeral

variable {text : List Char} {value : Decimal}

theorem ne_nil (numeral : Numeral text value) : text ≠ [] := by
  cases numeral with
  | whole nonempty allDigits => exact nonempty
  | pointed nonempty allDigits => exact List.append_ne_nil_of_right_ne_nil _ (List.cons_ne_nil _ _)

theorem isDigit_or_eq_point (numeral : Numeral text value) :
    ∀ character ∈ text, character.isDigit ∨ character = '.' := by
  intro character member
  cases numeral with
  | whole nonempty allDigits => exact .inl (allDigits character member)
  | pointed nonempty allDigits =>
      rcases List.mem_append.1 member with inWhole | inRest
      · exact .inl (allDigits.left character inWhole)
      rcases List.mem_cons.1 inRest with point | inFraction
      · exact .inr point
      · exact .inl (allDigits.right character inFraction)

theorem not_isExponentMark (numeral : Numeral text value) :
    ∀ character ∈ text, !Decimal.isExponentMark character := by
  intro character member
  rcases numeral.isDigit_or_eq_point character member with digit | rfl
  · simp only [Decimal.isExponentMark, Bool.not_eq_true', Bool.or_eq_false_iff, beq_eq_false_iff_ne]
    constructor <;> rintro rfl <;> exact absurd digit (by decide)
  · rfl

/-- A digit stands right behind a leading point. -/
theorem exists_digit_of_point (numeral : Numeral text value) {rest : List Char}
    (point : text = '.' :: rest) : ∃ digit behind, rest = digit :: behind ∧ digit.isDigit := by
  cases numeral with
  | whole nonempty allDigits =>
      rw [point] at allDigits
      exact absurd (allDigits '.' List.mem_cons_self) (by decide)
  | @pointed whole fraction nonempty allDigits =>
      rcases List.append_eq_cons_iff.1 point with ⟨rfl, same⟩ | ⟨front, rfl, -⟩
      · rw [List.nil_append] at nonempty allDigits
        rcases List.exists_cons_of_ne_nil nonempty with ⟨digit, behind, rfl⟩
        exact ⟨digit, behind, (List.cons.inj same).2.symm, allDigits digit List.mem_cons_self⟩
      · exact absurd (allDigits '.' (by simp)) (by decide)

/-- A numeral behind signs is the base of a literal whose mantissa is the integer that its digits
make behind those signs. -/
theorem exists_digits (numeral : Numeral text value) :
    ∃ digits, digits ≠ [] ∧ AllDigits digits ∧
      value.mantissa = (Nat.ofDigitChars 10 digits 0 : Int) ∧
      ∀ (signs : List Char) (exponent : Int), (∀ character ∈ signs, Decimal.isSign character) →
        Decimal.ofBase? (signs ++ text) exponent =
          (readInteger? (signs ++ digits)).map fun mantissa =>
            ⟨mantissa, value.scale - exponent⟩ := by
  have noPoint : ∀ signs digits : List Char, (∀ character ∈ signs, Decimal.isSign character) →
      AllDigits digits → ∀ character ∈ signs ++ digits, character != '.' := by
    intro signs digits areSigns allDigits character member
    rcases List.mem_append.1 member with inSigns | inDigits
    · rcases Decimal.eq_of_isSign (areSigns character inSigns) with rfl | rfl <;> rfl
    · exact bne_iff_ne.2 (allDigits.ne_of_mem inDigits rfl)
  cases numeral with
  | whole nonempty allDigits =>
      refine ⟨text, nonempty, allDigits, rfl, ?_⟩
      intro signs exponent areSigns
      rw [Decimal.ofBase?_of_no_point (noPoint signs text areSigns allDigits), Int.zero_sub]
  | @pointed whole fraction nonempty allDigits =>
      refine ⟨whole ++ fraction, nonempty, allDigits, rfl, ?_⟩
      intro signs exponent areSigns
      have noPointInFront := noPoint signs whole areSigns allDigits.left
      rw [← List.append_assoc, Decimal.ofBase?_pointed noPointInFront, List.append_assoc]

theorem ofBase?_eq (numeral : Numeral text value) (exponent : Int) :
    Decimal.ofBase? text exponent = some (value.timesTenTo exponent) := by
  rcases numeral.exists_digits with ⟨digits, nonempty, allDigits, mantissa, read⟩
  have unsigned := read [] exponent (by simp)
  rw [List.nil_append, List.nil_append, allDigits.readInteger? nonempty] at unsigned
  rw [unsigned, Option.map_some, ← mantissa]
  rfl

theorem ofBase?_plus (numeral : Numeral text value) (exponent : Int) :
    Decimal.ofBase? ('+' :: text) exponent = some (value.timesTenTo exponent) := by
  rcases numeral.exists_digits with ⟨digits, nonempty, allDigits, mantissa, read⟩
  have signed := read ['+'] exponent (by simp [Decimal.isSign])
  rw [List.singleton_append, List.singleton_append, allDigits.readInteger?_plus nonempty]
    at signed
  rw [signed, Option.map_some, ← mantissa]
  rfl

theorem ofBase?_minus (numeral : Numeral text value) (exponent : Int) :
    Decimal.ofBase? ('-' :: text) exponent = some (value.neg.timesTenTo exponent) := by
  rcases numeral.exists_digits with ⟨digits, nonempty, allDigits, mantissa, read⟩
  have signed := read ['-'] exponent (by simp [Decimal.isSign])
  rw [List.singleton_append, List.singleton_append, allDigits.readInteger?_minus nonempty]
    at signed
  rw [signed, Option.map_some, ← mantissa]
  rfl

/-- A numeral is a literal of the decimal it denotes. -/
theorem ofChars?_eq (numeral : Numeral text value) : Decimal.ofChars? text = some value := by
  rw [Decimal.ofChars?_of_no_mark numeral.not_isExponentMark, numeral.ofBase?_eq,
    Decimal.timesTenTo_zero]

theorem ofChars?_minus (numeral : Numeral text value) :
    Decimal.ofChars? ('-' :: text) = some value.neg := by
  rw [Decimal.ofChars?_of_no_mark (List.forall_mem_cons.2 ⟨rfl, numeral.not_isExponentMark⟩),
    numeral.ofBase?_minus, Decimal.timesTenTo_zero]

end Numeral

end DecimalCalculator
