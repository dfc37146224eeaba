import DecimalCalculator.Proofs.Decimal.Uniqueness

/-!
# Rendering and reading are inverse

A text that was rendered is read back as a decimal of the same number, though not always as the
same decimal: the zeros that are not shown are lost. Texts are therefore equal exactly where numbers
are, whatever contexts they were rendered under.

In the other direction nothing is lost. The decimal that a plain text is read as has as many
digits as the text needs: the length that is checked before rendering is the length of the text
itself, so a plain text that a display accepts is rendered again from what it was read as.
-/

namespace DecimalCalculator

/-! ## Lengths of plain texts -/

theorem IsWhole.digitCount_eq {digits : List Char} (isWhole : IsWhole digits) :
    digitCount (Nat.ofDigitChars 10 digits 0) = digits.length := by
  rw [digitCount, ← isWhole.eq_digitsOf]

/-- A whole part other than zero goes on as a whole part when digits are put behind it. -/
theorem IsWhole.append {whole digits : List Char} (isWhole : IsWhole whole)
    (notZero : whole ≠ ['0']) (allDigits : AllDigits digits) : IsWhole (whole ++ digits) := by
  refine ⟨List.append_ne_nil_of_left_ne_nil isWhole.nonempty digits,
    isWhole.allDigits.append allDigits, ?_⟩
  intro zero
  rcases List.exists_cons_of_ne_nil isWhole.nonempty with ⟨first, rest, rfl⟩
  exact absurd (isWhole.noLeadingZero zero) notZero

theorem IsWhole.max_digitCount_append {whole fraction : List Char} (isWhole : IsWhole whole)
    (isFraction : IsFraction fraction) :
    max (digitCount (Nat.ofDigitChars 10 (whole ++ fraction) 0)) (fraction.length + 1) =
      whole.length + fraction.length := by
  have places : 0 < fraction.length := List.length_pos_of_ne_nil isFraction.nonempty
  by_cases zero : whole = ['0']
  · have small : digitCount (Nat.ofDigitChars 10 (whole ++ fraction) 0) ≤ fraction.length := by
      rw [digitCount_le_iff places, zero, ofDigitChars_append_mul]
      have leading : Nat.ofDigitChars 10 ['0'] 0 = 0 := rfl
      rw [leading, Nat.zero_mul, Nat.zero_add]
      exact isFraction.allDigits.lt_tenTo
    have length : whole.length = 1 := congrArg List.length zero
    omega
  · have joined := isWhole.append zero isFraction.allDigits
    have width : 0 < whole.length := List.length_pos_of_ne_nil isWhole.nonempty
    rw [joined.digitCount_eq, List.length_append]
    omega

namespace Decimal

@[simp]
theorem plainLength_neg (value : Decimal) : value.neg.plainLength = value.plainLength := by
  rw [plainLength, plainLength, digits_neg]
  rfl

end Decimal

/-- The length that is checked for the decimal of a plain magnitude is the length of the
magnitude. -/
theorem IsPlainMagnitude.plainLength_eq {text : List Char} {value : Decimal}
    (plain : IsPlainMagnitude text) (numeral : Numeral text value) :
    value.plainLength = text.length := by
  cases plain with
  | whole isWhole =>
      rw [numeral.unique (.whole isWhole.nonempty isWhole.allDigits)]
      exact isWhole.digitCount_eq
  | @pointed whole fraction isWhole isFraction =>
      have nonempty := List.append_ne_nil_of_left_ne_nil isWhole.nonempty fraction
      have places : 0 < fraction.length := List.length_pos_of_ne_nil isFraction.nonempty
      have fractional : ¬(fraction.length : ℤ) ≤ 0 := by omega
      rw [numeral.unique (.pointed nonempty (isWhole.allDigits.append isFraction.allDigits)),
        Decimal.plainLength, if_neg fractional]
      have total := isWhole.max_digitCount_append isFraction
      simp only [Decimal.digits, Int.natAbs_natCast, List.length_append, List.length_cons]
      omega

/-! ## Reading what was rendered -/

theorem IsPlainTextOf.exists_parse? {text : String} {number : ℚ}
    (shows : IsPlainTextOf text number) :
    ∃ read, Decimal.parse? text = some read ∧ read.toRat = number := by
  rcases shows.denotes with ⟨read, signed, same⟩
  exact ⟨read, signed.ofChars?_eq, same⟩

namespace Decimal

variable {context otherContext : Context} {value other : Decimal} {text otherText : String}

/-- Two decimals are rendered alike exactly if they stand for one number. -/
theorem text_eq_iff (rendered : value.render context = .ok text)
    (otherRendered : other.render otherContext = .ok otherText) :
    text = otherText ↔ value.toRat = other.toRat := by
  have shows := isPlainTextOf_render rendered
  have otherShows := isPlainTextOf_render otherRendered
  constructor
  · rintro rfl
    rcases shows.exists_parse? with ⟨read, parsed, same⟩
    rcases otherShows.exists_parse? with ⟨otherRead, otherParsed, otherSame⟩
    rw [parsed, Option.some.injEq] at otherParsed
    rw [← same, ← otherSame, otherParsed]
  · intro same
    rw [← same] at otherShows
    exact shows.unique otherShows

/-! ## Rendering what was read -/

/-- A plain text is read as a decimal of which it is the text. -/
theorem exists_plainText_of_isPlain (plain : IsPlain text.toList) :
    ∃ value, parse? text = some value ∧ value.plainText = text ∧
      value.plainLength = (unsigned text.toList).length := by
  rcases plain.exists_magnitude with ⟨magnitude, numeral, signed⟩
  have length := plain.magnitude.plainLength_eq numeral
  have shown {value : Decimal} (denoted : SignedNumeral text.toList value) :
      value.plainText = text :=
    (isPlainTextOf_plainText value).unique ⟨plain, value, denoted, rfl⟩
  rcases signed with ⟨written, read⟩ | ⟨written, -, read⟩
  · refine ⟨magnitude, read, shown ?_, length⟩
    rw [written]
    exact .unsigned numeral
  · refine ⟨magnitude.neg, read, shown ?_, ?_⟩
    · rw [written]
      exact .minus numeral
    · rw [plainLength_neg, length]

theorem render_of_plainLength_le (short : value.plainLength ≤ context.displayLimit) :
    value.render context = .ok value.plainText := by
  rw [render, if_neg]
  rintro ⟨-, long⟩
  exact absurd long (Nat.not_lt_of_le short)

/-- Rendering and reading are inverse to each other. What was rendered is read back as the same
number, so that decimals are rendered alike exactly if they stand for one number; and a plain text
no longer than the display accepts is rendered from the decimal it is read as. -/
theorem render_parse? :
    (∀ (context : Context) (value : Decimal) (text : String),
        value.render context = .ok text →
          ∃ read, parse? text = some read ∧ read.toRat = value.toRat) ∧
      (∀ (context otherContext : Context) (value other : Decimal) (text otherText : String),
        value.render context = .ok text → other.render otherContext = .ok otherText →
          (text = otherText ↔ value.toRat = other.toRat)) ∧
      ∀ (context : Context) (text : String), IsPlain text.toList →
        (unsigned text.toList).length ≤ context.displayLimit →
          ∃ value, parse? text = some value ∧ value.render context = .ok text := by
  refine ⟨?_, ?_, ?_⟩
  · intro context value text rendered
    exact (isPlainTextOf_render rendered).exists_parse?
  · intro context otherContext value other text otherText rendered otherRendered
    exact text_eq_iff rendered otherRendered
  · intro context text plain short
    rcases exists_plainText_of_isPlain plain with ⟨value, read, written, length⟩
    rw [← length] at short
    refine ⟨value, read, ?_⟩
    rw [render_of_plainLength_le short, written]

/-- A decimal with a zero at the end is rendered as the one without it, and the text needs all
places of a display of four. -/
theorem render_parse?_negative :
    (⟨-1250, 3⟩ : Decimal).render Context.default = .ok "-1.25" ∧
      (∃ read, parse? "-1.25" = some read ∧ read.toRat = toRat ⟨-1250, 3⟩) ∧
      toRat ⟨-1250, 3⟩ = toRat ⟨-125, 2⟩ ∧
      ∃ value, parse? "-1.25" = some value ∧
        value.render { Context.default with displayLimit := 4 } = .ok "-1.25" := by
  have rendered : (⟨-1250, 3⟩ : Decimal).render Context.default = .ok "-1.25" := by decide
  have otherRendered : (⟨-125, 2⟩ : Decimal).render Context.default = .ok "-1.25" := by decide
  have plain : IsPlain "-1.25".toList := isPlain_of_render rendered
  refine ⟨rendered, render_parse?.1 _ _ _ rendered, ?_, ?_⟩
  · exact (render_parse?.2.1 _ _ _ _ _ _ rendered otherRendered).1 rfl
  · exact render_parse?.2.2 _ _ plain (by decide)

end Decimal

end DecimalCalculator
