import DecimalCalculator.Proofs.Decimal.Literal
import DecimalCalculator.Proofs.Decimal.PlainText
import DecimalCalculator.Proofs.Decimal.Rational

/-!
# The number shown by a plain text

The text of a decimal is a numeral, behind a minus sign if the decimal is negative, and denotes
the number of the decimal. The decimal that the numeral denotes need not be the one that was
written: zeros in front of the digits, zeros at the end of the fraction, and zeros that stand for a
negative scale are written or left out as the form of plain texts asks. None of them changes the
number.
-/

namespace DecimalCalculator

/-- Whether a text is the plain text of a number. -/
structure IsPlainTextOf (text : String) (number : ℚ) : Prop where
  plain : IsPlain text.toList
  denotes : ∃ value, SignedNumeral text.toList value ∧ value.toRat = number

/-! ## Zeros around digits -/

theorem ofDigitChars_append_zeros (digits : List Char) (count : ℕ) :
    Nat.ofDigitChars 10 (digits ++ List.replicate count '0') 0 =
      Nat.ofDigitChars 10 digits 0 * 10 ^ count := by
  rw [Nat.ofDigitChars_append, Nat.ofDigitChars_replicate_zero, Nat.mul_comm]

theorem ofDigitChars_leftpad (digits : List Char) (width : ℕ) :
    Nat.ofDigitChars 10 (digits.leftpad width '0') 0 = Nat.ofDigitChars 10 digits 0 := by
  rw [List.leftpad, Nat.ofDigitChars_append, Nat.ofDigitChars_replicate_zero, Nat.mul_zero]

theorem ofDigitChars_digitsOf (number : ℕ) : Nat.ofDigitChars 10 (digitsOf number) 0 = number := by
  rw [digitsOf_eq_toDigits, Nat.ofDigitChars_toDigits (by decide) (by decide)]

namespace Decimal

/-- A point in front of the last digits divides the number of the digits. -/
theorem exists_numeral_pointed {digits : List Char} (allDigits : AllDigits digits)
    (decimals : ℕ) :
    ∃ number, Numeral (pointed digits decimals) number ∧
      number.toRat = (Nat.ofDigitChars 10 digits 0 : ℚ) / 10 ^ decimals := by
  rcases exists_pointed digits decimals with ⟨whole, tail, split, length, written⟩
  rcases exists_append_zeros tail with ⟨count, zeros⟩
  generalize dropTrailingZeros tail = fraction at written zeros
  have parted : IsParted (pointed digits decimals) whole fraction := by
    rw [written]
    split
    next dropped => exact .inl ⟨rfl, dropped⟩
    next => exact .inr rfl
  have nonempty : whole ++ fraction ≠ [] := by
    have total := congrArg List.length split
    rw [List.length_append, List.length_leftpad, length] at total
    apply List.append_ne_nil_of_left_ne_nil
    apply List.ne_nil_of_length_pos
    omega
  have padded := allDigits.leftpad (decimals + 1)
  rw [← split, zeros, ← List.append_assoc] at padded
  refine ⟨_, parted.numeral nonempty padded.left, ?_⟩
  have shifted : Nat.ofDigitChars 10 digits 0 =
      Nat.ofDigitChars 10 (whole ++ fraction) 0 * 10 ^ count := by
    rw [← ofDigitChars_append_zeros, List.append_assoc, ← zeros, split, ofDigitChars_leftpad]
  have places : decimals = fraction.length + count := by
    rw [← length, zeros, List.length_append, List.length_replicate]
  rw [toRat_natScale, shifted, places, pow_add]
  push_cast
  field_simp

theorem exists_numeral_plainMagnitude (value : Decimal) :
    ∃ number, Numeral value.plainMagnitude number ∧
      number.toRat = (value.mantissa.natAbs : ℚ) * (10 : ℚ) ^ (-value.scale) := by
  have allDigits := allDigits_digitsOf value.mantissa.natAbs
  simp only [plainMagnitude]
  split
  next integral =>
    have nonempty := List.append_ne_nil_of_left_ne_nil (digitsOf_ne_nil value.mantissa.natAbs)
      (List.replicate value.scale.natAbs '0')
    refine ⟨_, .whole nonempty (allDigits.append (.zeros _)), ?_⟩
    have scale : -value.scale = (value.scale.natAbs : ℤ) := by omega
    rw [ofDigitChars_append_zeros, ofDigitChars_digitsOf, scale, zpow_natCast]
    simp [toRat]
  next fractional =>
    rcases exists_numeral_pointed allDigits value.scale.natAbs with ⟨number, numeral, shows⟩
    refine ⟨number, numeral, ?_⟩
    have scale : value.scale = (value.scale.natAbs : ℤ) := by omega
    rw [shows, ofDigitChars_digitsOf, zpow_neg, div_eq_mul_inv]
    congr 2
    rw [← zpow_natCast, ← scale]

theorem exists_signedNumeral_plainChars (value : Decimal) :
    ∃ denoted, SignedNumeral value.plainChars denoted ∧ denoted.toRat = value.toRat := by
  rcases exists_numeral_plainMagnitude value with ⟨number, numeral, shows⟩
  simp only [plainChars]
  split
  next isZero =>
    have zero : Numeral ['0'] Decimal.zero := .whole (by decide) (by decide)
    refine ⟨_, .unsigned zero, ?_⟩
    rw [toRat_of_isZero isZero, toRat_of_isZero rfl]
  next nonzero =>
    split
    next negative =>
      refine ⟨_, .minus numeral, ?_⟩
      have magnitude : (value.mantissa.natAbs : ℤ) = -value.mantissa := by
        have := of_decide_eq_true negative
        omega
      rw [toRat_neg, shows, toRat, ← Int.cast_natCast, magnitude]
      push_cast
      ring
    next nonnegative =>
      refine ⟨_, .unsigned numeral, ?_⟩
      have magnitude : (value.mantissa.natAbs : ℤ) = value.mantissa := by
        have := of_decide_eq_false (Bool.eq_false_iff.2 nonnegative)
        omega
      rw [shows, toRat, ← Int.cast_natCast, magnitude]

theorem isPlainTextOf_plainText (value : Decimal) :
    IsPlainTextOf value.plainText value.toRat := by
  refine ⟨?_, ?_⟩ <;> rw [plainText, String.toList_ofList]
  · exact isPlain_plainChars value
  · exact exists_signedNumeral_plainChars value

/-- The text that is shown for a decimal is the plain text of its number. -/
theorem isPlainTextOf_render {context : Context} {value : Decimal} {text : String}
    (rendered : value.render context = .ok text) : IsPlainTextOf text value.toRat := by
  rw [eq_plainText_of_render rendered]
  exact isPlainTextOf_plainText value

end Decimal

end DecimalCalculator
