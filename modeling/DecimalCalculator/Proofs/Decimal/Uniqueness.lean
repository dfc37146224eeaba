import DecimalCalculator.Proofs.Decimal.PlainValue
import Mathlib.Data.List.Induction
import Mathlib.Tactic.Linarith
import Mathlib.Tactic.Positivity

/-!
# A number has one plain text

A run of digits is determined by its length and its number, and a whole part already by its
number, as it has no zero in front that could be left out. The fraction of a plain text does not
end with a zero, so its length is determined by the number too: of two fractions that denote one
number with whole parts in front of them, the longer one would have to end with a zero.
-/

namespace DecimalCalculator

/-! ## Runs of digits -/

theorem digit_lt_ten {digit : Char} (isDigit : digit.isDigit) : digit.toNat - '0'.toNat < 10 := by
  have bounds := Char.isDigit_iff_toNat.1 isDigit
  have zero : '0'.toNat = 48 := rfl
  have nine : '9'.toNat = 57 := rfl
  omega

theorem digitChar_toNat {digit : Char} (isDigit : digit.isDigit) :
    Nat.digitChar (digit.toNat - '0'.toNat) = digit := by
  have bounds := Char.isDigit_iff_toNat.1 isDigit
  have zero : '0'.toNat = 48 := rfl
  apply Char.toNat_inj.1
  rw [Nat.toNat_digitChar_of_lt_ten (digit_lt_ten isDigit)]
  omega

theorem ofDigitChars_concat (front : List Char) (last : Char) :
    Nat.ofDigitChars 10 (front ++ [last]) 0 =
      10 * Nat.ofDigitChars 10 front 0 + (last.toNat - '0'.toNat) := by
  rw [Nat.ofDigitChars_append, Nat.ofDigitChars_cons, Nat.ofDigitChars_nil]

theorem ofDigitChars_append_mul (front back : List Char) :
    Nat.ofDigitChars 10 (front ++ back) 0 =
      Nat.ofDigitChars 10 front 0 * 10 ^ back.length + Nat.ofDigitChars 10 back 0 := by
  rw [Nat.ofDigitChars_append, Nat.ofDigitChars_eq_ofDigitChars_zero, Nat.mul_comm]

namespace AllDigits

variable {digits : List Char}

/-- Digits are the digits of their number at their length. -/
theorem fixedDigits_eq (allDigits : AllDigits digits) :
    fixedDigits digits.length (Nat.ofDigitChars 10 digits 0) = digits := by
  induction digits using List.reverseRecOn with
  | nil => rfl
  | append_singleton front last ih =>
      have isDigit : last.isDigit := allDigits.right last List.mem_cons_self
      have bound := digit_lt_ten isDigit
      rw [List.length_append, List.length_singleton, fixedDigits, ofDigitChars_concat]
      have quotient : (10 * Nat.ofDigitChars 10 front 0 + (last.toNat - '0'.toNat)) / 10 =
          Nat.ofDigitChars 10 front 0 := by omega
      have remainder : (10 * Nat.ofDigitChars 10 front 0 + (last.toNat - '0'.toNat)) % 10 =
          last.toNat - '0'.toNat := by omega
      rw [quotient, remainder, ih allDigits.left, digitChar_toNat isDigit]

theorem lt_tenTo (allDigits : AllDigits digits) :
    Nat.ofDigitChars 10 digits 0 < 10 ^ digits.length := by
  induction digits using List.reverseRecOn with
  | nil => decide
  | append_singleton front last ih =>
      have bound := digit_lt_ten (allDigits.right last List.mem_cons_self)
      have shorter := ih allDigits.left
      rw [ofDigitChars_concat, List.length_append, List.length_singleton, pow_succ]
      omega

/-- A number whose last digit is not zero is no multiple of ten. -/
theorem mod_ten_ne_zero (allDigits : AllDigits digits) (nonempty : digits ≠ [])
    (lastNotZero : digits.getLast? ≠ some '0') : Nat.ofDigitChars 10 digits 0 % 10 ≠ 0 := by
  rcases List.eq_nil_or_concat digits with rfl | ⟨front, last, rfl⟩
  · exact absurd rfl nonempty
  · rw [List.concat_eq_append] at allDigits lastNotZero ⊢
    have isDigit : last.isDigit := allDigits.right last List.mem_cons_self
    have bound := digit_lt_ten isDigit
    have notZero : last.toNat - '0'.toNat ≠ 0 := by
      intro zero
      apply lastNotZero
      rw [List.getLast?_concat, ← digitChar_toNat isDigit, zero]
      rfl
    rw [ofDigitChars_concat]
    omega

end AllDigits

/-- A whole part is the digits of its number. -/
theorem IsWhole.eq_digitsOf {digits : List Char} (isWhole : IsWhole digits) :
    digits = digitsOf (Nat.ofDigitChars 10 digits 0) := by
  by_cases zero : digits.head? = some '0'
  · rw [isWhole.noLeadingZero zero]
    rfl
  · have fixed := isWhole.allDigits.fixedDigits_eq
    have positive : 0 < Nat.ofDigitChars 10 digits 0 := by
      apply Nat.pos_of_ne_zero
      intro isZero
      rw [isZero, fixedDigits_zero] at fixed
      rcases List.exists_cons_of_ne_nil isWhole.nonempty with ⟨first, rest, rfl⟩
      rw [← fixed] at zero
      exact zero rfl
    have dropped := dropWhile_fixedDigits positive isWhole.allDigits.lt_tenTo
    rw [fixed] at dropped
    rw [digitsOf_eq_toDigits, ← dropped]
    rcases List.exists_cons_of_ne_nil isWhole.nonempty with ⟨first, rest, rfl⟩
    rw [List.head?_cons, Option.some.injEq] at zero
    exact (List.dropWhile_cons_of_neg (by simpa using zero)).symm

/-! ## Magnitudes -/

/-- The parts of a plain magnitude, of which the fraction may be missing. -/
structure IsPlainParts (whole fraction : List Char) : Prop where
  isWhole : IsWhole whole
  allDigits : AllDigits fraction
  noTrailingZero : fraction.getLast? ≠ some '0'

theorem IsPlainMagnitude.exists_parts {text : List Char} (plain : IsPlainMagnitude text) :
    ∃ whole fraction, IsPlainParts whole fraction ∧
      text = (if fraction = [] then whole else whole ++ '.' :: fraction) ∧
      Numeral text ⟨Nat.ofDigitChars 10 (whole ++ fraction) 0, fraction.length⟩ := by
  cases plain with
  | whole isWhole =>
      refine ⟨text, [], ⟨isWhole, List.forall_mem_nil _, by simp⟩, rfl, ?_⟩
      rw [List.append_nil]
      exact .whole isWhole.nonempty isWhole.allDigits
  | @pointed whole fraction isWhole isFraction =>
      refine ⟨whole, fraction, ⟨isWhole, isFraction.allDigits, isFraction.noTrailingZero⟩,
        (if_neg isFraction.nonempty).symm, .pointed ?_ ?_⟩
      · exact List.append_ne_nil_of_left_ne_nil isWhole.nonempty fraction
      · exact isWhole.allDigits.append isFraction.allDigits

namespace IsPlainParts

variable {whole fraction otherWhole otherFraction : List Char}

/-- The places of a plain magnitude are no more than those of any digits of its number. -/
theorem length_le (others : IsPlainParts otherWhole otherFraction)
    (same : Nat.ofDigitChars 10 (whole ++ fraction) 0 * 10 ^ otherFraction.length =
      Nat.ofDigitChars 10 (otherWhole ++ otherFraction) 0 * 10 ^ fraction.length) :
    otherFraction.length ≤ fraction.length := by
  by_contra longer
  have nonempty : otherFraction ≠ [] := List.ne_nil_of_length_pos (by omega)
  rcases Nat.exists_eq_add_of_lt (Nat.lt_of_not_le longer) with ⟨gap, length⟩
  have multiple : Nat.ofDigitChars 10 (otherWhole ++ otherFraction) 0 =
      10 * (Nat.ofDigitChars 10 (whole ++ fraction) 0 * 10 ^ gap) := by
    rw [length, pow_succ, pow_add] at same
    apply Nat.eq_of_mul_eq_mul_right (Nat.pow_pos (by decide : 0 < 10) (n := fraction.length))
    rw [← same]
    ring
  have lastNotZero : (otherWhole ++ otherFraction).getLast? ≠ some '0' := by
    rw [List.getLast?_append_of_ne_nil _ nonempty]
    exact others.noTrailingZero
  apply (others.isWhole.allDigits.append others.allDigits).mod_ten_ne_zero
    (List.append_ne_nil_of_right_ne_nil _ nonempty) lastNotZero
  omega

theorem eq_of_length_eq (parts : IsPlainParts whole fraction)
    (others : IsPlainParts otherWhole otherFraction)
    (length : fraction.length = otherFraction.length)
    (same : Nat.ofDigitChars 10 (whole ++ fraction) 0 =
      Nat.ofDigitChars 10 (otherWhole ++ otherFraction) 0) :
    whole = otherWhole ∧ fraction = otherFraction := by
  have bound := parts.allDigits.lt_tenTo
  have otherBound := others.allDigits.lt_tenTo
  rw [ofDigitChars_append_mul, ofDigitChars_append_mul, length] at same
  rw [length] at bound
  have wholes : Nat.ofDigitChars 10 whole 0 = Nat.ofDigitChars 10 otherWhole 0 := by
    have quotients := congrArg (· / 10 ^ otherFraction.length) same
    have unit : 0 < 10 ^ otherFraction.length := Nat.pow_pos (by decide)
    simpa only [Nat.mul_comm _ (10 ^ _), Nat.mul_add_div unit, Nat.div_eq_of_lt bound,
      Nat.div_eq_of_lt otherBound, Nat.add_zero] using quotients
  have fractions : Nat.ofDigitChars 10 fraction 0 = Nat.ofDigitChars 10 otherFraction 0 := by
    rw [wholes] at same
    omega
  refine ⟨?_, ?_⟩
  · rw [parts.isWhole.eq_digitsOf, wholes, ← others.isWhole.eq_digitsOf]
  · rw [← parts.allDigits.fixedDigits_eq, fractions, length, others.allDigits.fixedDigits_eq]

end IsPlainParts

theorem Numeral.toRat_nonneg {text : List Char} {value : Decimal} (numeral : Numeral text value) :
    0 ≤ value.toRat := by
  have natural : 0 ≤ value.mantissa := by
    cases numeral <;> exact Int.natCast_nonneg _
  exact mul_nonneg (Int.cast_nonneg natural) (zpow_nonneg (by norm_num) _)

theorem Numeral.unique {text : List Char} {value other : Decimal} (numeral : Numeral text value)
    (otherNumeral : Numeral text other) : value = other :=
  Option.some.inj (numeral.ofChars?_eq.symm.trans otherNumeral.ofChars?_eq)

/-- A plain magnitude is determined by its number. -/
theorem IsPlainMagnitude.unique {text other : List Char} {value otherValue : Decimal}
    (plain : IsPlainMagnitude text) (otherPlain : IsPlainMagnitude other)
    (numeral : Numeral text value) (otherNumeral : Numeral other otherValue)
    (same : value.toRat = otherValue.toRat) : text = other := by
  rcases plain.exists_parts with ⟨whole, fraction, parts, joined, denoted⟩
  rcases otherPlain.exists_parts with
    ⟨otherWhole, otherFraction, otherParts, otherJoined, otherDenoted⟩
  rw [numeral.unique denoted, otherNumeral.unique otherDenoted, Decimal.toRat_natScale,
    Decimal.toRat_natScale, div_eq_div_iff (by positivity) (by positivity)] at same
  have crossed : Nat.ofDigitChars 10 (whole ++ fraction) 0 * 10 ^ otherFraction.length =
      Nat.ofDigitChars 10 (otherWhole ++ otherFraction) 0 * 10 ^ fraction.length := by
    exact_mod_cast same
  have length : fraction.length = otherFraction.length :=
    Nat.le_antisymm (parts.length_le crossed.symm) (otherParts.length_le crossed)
  rw [length] at crossed
  have digits := Nat.eq_of_mul_eq_mul_right (Nat.pow_pos (by decide : 0 < 10)) crossed
  rcases parts.eq_of_length_eq otherParts length digits with ⟨rfl, rfl⟩
  rw [joined, otherJoined]

/-! ## Texts -/

/-- A plain text is a magnitude, or a minus sign in front of a magnitude that is not zero. -/
theorem IsPlain.exists_magnitude {text : List Char} (plain : IsPlain text) :
    ∃ value, Numeral (unsigned text) value ∧
      (text = unsigned text ∧ Decimal.ofChars? text = some value ∨
        text = '-' :: unsigned text ∧ 0 < value.toRat ∧
          Decimal.ofChars? text = some value.neg) := by
  rcases plain.magnitude.exists_numeral with ⟨value, numeral⟩
  refine ⟨value, numeral, ?_⟩
  by_cases minus : text.head? = some '-'
  · right
    rcases List.head?_eq_some_iff.1 minus with ⟨magnitude, rfl⟩
    refine ⟨rfl, lt_of_le_of_ne numeral.toRat_nonneg ?_, numeral.ofChars?_minus⟩
    intro zero
    have isZero : IsPlainMagnitude ['0'] := (Decimal.isPlain_plainChars Decimal.zero).magnitude
    have zeroNumeral : Numeral ['0'] Decimal.zero := .whole (by decide) (by decide)
    have noMagnitude : magnitude = ['0'] :=
      plain.magnitude.unique isZero numeral zeroNumeral
        (zero.symm.trans (Decimal.toRat_of_isZero rfl).symm)
    exact plain.notNegativeZero (congrArg _ noMagnitude)
  · left
    rw [unsigned_of_head?_ne minus] at numeral ⊢
    exact ⟨rfl, numeral.ofChars?_eq⟩

/-- A number has only one plain text. -/
theorem IsPlainTextOf.unique {text other : String} {number : ℚ}
    (shows : IsPlainTextOf text number) (otherShows : IsPlainTextOf other number) :
    text = other := by
  rcases shows with ⟨plain, _, denotes, rfl⟩
  rcases otherShows with ⟨otherPlain, _, otherDenotes, same⟩
  rcases plain.exists_magnitude with ⟨value, numeral, signed⟩
  rcases otherPlain.exists_magnitude with ⟨otherValue, otherNumeral, otherSigned⟩
  have nonnegative := numeral.toRat_nonneg
  have otherNonnegative := otherNumeral.toRat_nonneg
  have magnitudes (sameMagnitude : value.toRat = otherValue.toRat) :
      unsigned text.toList = unsigned other.toList :=
    plain.magnitude.unique otherPlain.magnitude numeral otherNumeral sameMagnitude
  apply String.toList_inj.1
  rcases signed with ⟨written, readValue⟩ | ⟨written, positive, readValue⟩ <;>
    rcases otherSigned with ⟨otherWritten, otherReadValue⟩ |
      ⟨otherWritten, otherPositive, otherReadValue⟩ <;>
    cases denotes.ofChars?_eq.symm.trans readValue <;>
    cases otherDenotes.ofChars?_eq.symm.trans otherReadValue
  · rw [written, otherWritten, magnitudes same.symm]
  · rw [Decimal.toRat_neg] at same
    linarith
  · rw [Decimal.toRat_neg] at same
    linarith
  · rw [Decimal.toRat_neg, Decimal.toRat_neg] at same
    rw [written, otherWritten, magnitudes (neg_injective same.symm)]

end DecimalCalculator
