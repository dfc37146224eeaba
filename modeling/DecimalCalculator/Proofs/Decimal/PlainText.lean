import DecimalCalculator.Decimal.Plain
import DecimalCalculator.Proofs.Decimal.Numeral
import DecimalCalculator.Proofs.Failure

/-!
# The form of plain text

A plain text is a decimal in positional notation and nothing that could be left out: no zero in
front of other digits of the whole part, no zero at the end of the fraction, no point without a
fraction, no sign on zero. There is no exponent in it.

The text of every decimal is of this form, whatever the sign, the number of digits and the
scale of the decimal. It is never longer than the length that is checked before it is made, and
it can be read back as a literal.
-/

namespace DecimalCalculator

/-- A run of digits that does not begin with a zero, unless it is one. -/
structure IsWhole (digits : List Char) : Prop where
  nonempty : digits ≠ []
  allDigits : AllDigits digits
  noLeadingZero : digits.head? = some '0' → digits = ['0']

/-- A run of digits that does not end with a zero. -/
structure IsFraction (digits : List Char) : Prop where
  nonempty : digits ≠ []
  allDigits : AllDigits digits
  noTrailingZero : digits.getLast? ≠ some '0'

inductive IsPlainMagnitude : List Char → Prop
  | whole {digits : List Char} (whole : IsWhole digits) : IsPlainMagnitude digits
  | pointed {whole fraction : List Char} (isWhole : IsWhole whole)
      (isFraction : IsFraction fraction) : IsPlainMagnitude (whole ++ '.' :: fraction)

def unsigned : List Char → List Char
  | '-' :: magnitude => magnitude
  | magnitude => magnitude

/-- The plain texts. -/
structure IsPlain (text : List Char) : Prop where
  magnitude : IsPlainMagnitude (unsigned text)
  notNegativeZero : text ≠ ['-', '0']

/-! ## Plain texts are literals -/

theorem IsPlainMagnitude.exists_numeral {text : List Char} (plain : IsPlainMagnitude text) :
    ∃ value, Numeral text value := by
  cases plain with
  | whole whole => exact ⟨_, .whole whole.nonempty whole.allDigits⟩
  | @pointed whole fraction isWhole isFraction =>
      exact ⟨_, .pointed (List.append_ne_nil_of_left_ne_nil isWhole.nonempty fraction)
        (isWhole.allDigits.append isFraction.allDigits)⟩

theorem unsigned_of_head?_ne {text : List Char} (noSign : text.head? ≠ some '-') :
    unsigned text = text := by
  cases text with
  | nil => rfl
  | cons first rest =>
      rw [List.head?_cons, Ne, Option.some.injEq] at noSign
      simp [unsigned, noSign]

theorem IsPlainMagnitude.head?_ne_minus {text : List Char} (plain : IsPlainMagnitude text) :
    text.head? ≠ some '-' := by
  rcases plain.exists_numeral with ⟨value, numeral⟩
  intro minus
  rcases numeral.isDigit_or_eq_point '-' (List.mem_of_head? minus) with digit | point
  · exact absurd digit (by decide)
  · exact absurd point (by decide)

theorem IsPlain.exists_ofChars? {text : List Char} (plain : IsPlain text) :
    ∃ value, Decimal.ofChars? text = some value := by
  rcases plain.magnitude.exists_numeral with ⟨value, numeral⟩
  by_cases minus : text.head? = some '-'
  · rcases List.head?_eq_some_iff.1 minus with ⟨magnitude, rfl⟩
    exact ⟨value.neg, numeral.ofChars?_minus⟩
  · rw [unsigned_of_head?_ne minus] at numeral
    exact ⟨value, numeral.ofChars?_eq⟩

/-! ## The digits of a number -/

theorem allDigits_digitsOf (number : Nat) : AllDigits (digitsOf number) := by
  intro character member
  rw [digitsOf_eq_toDigits] at member
  exact Nat.isDigit_of_mem_toDigits (by decide) (by decide) member

theorem digitsOf_ne_nil (number : Nat) : digitsOf number ≠ [] :=
  List.ne_nil_of_length_pos (digitCount_pos number)

theorem head?_dropWhile_zero_ne (digits : List Char) :
    (digits.dropWhile (· == '0')).head? ≠ some '0' := by
  intro zero
  have notZero := List.head?_dropWhile_not (· == '0') digits
  rw [zero] at notZero
  exact absurd notZero (by decide)

theorem head?_digitsOf_ne_zero {number : Nat} (positive : 0 < number) :
    (digitsOf number).head? ≠ some '0' := by
  rw [digitsOf, if_neg (Nat.ne_of_gt positive)]
  exact head?_dropWhile_zero_ne _

theorem getLast?_dropTrailingZeros_ne (digits : List Char) :
    (dropTrailingZeros digits).getLast? ≠ some '0' := by
  rw [dropTrailingZeros, List.getLast?_reverse]
  exact head?_dropWhile_zero_ne digits.reverse

theorem exists_append_zeros (digits : List Char) :
    ∃ count, digits = dropTrailingZeros digits ++ List.replicate count '0' := by
  let zeros := digits.reverse.takeWhile (· == '0')
  have allZeros : zeros = List.replicate zeros.length '0' := by
    apply List.eq_replicate_of_mem
    intro character member
    exact eq_of_beq (List.all_eq_true.1 List.all_takeWhile character member)
  refine ⟨zeros.length, ?_⟩
  calc
    digits = (zeros ++ digits.reverse.dropWhile (· == '0')).reverse := by
      rw [List.takeWhile_append_dropWhile, List.reverse_reverse]
    _ = dropTrailingZeros digits ++ zeros.reverse := List.reverse_append
    _ = dropTrailingZeros digits ++ List.replicate zeros.length '0' := by
      rw [allZeros, List.reverse_replicate, List.length_replicate]

/-! ## The text of a decimal -/

namespace Decimal

/-- Digits in front of a point, with zeros put in front so that one digit remains there. -/
theorem exists_pointed (digits : List Char) (decimals : Nat) :
    ∃ whole tail, whole ++ tail = digits.leftpad (decimals + 1) '0' ∧ tail.length = decimals ∧
      pointed digits decimals = if dropTrailingZeros tail = [] then whole
        else whole ++ '.' :: dropTrailingZeros tail := by
  let padded := digits.leftpad (decimals + 1) '0'
  have enough : decimals ≤ padded.length := by
    rw [List.length_leftpad]
    omega
  refine ⟨padded.take (padded.length - decimals), padded.drop (padded.length - decimals),
    List.take_append_drop _ _, ?_, ?_⟩
  · rw [List.length_drop]
    omega
  · simp only [pointed, List.isEmpty_iff]
    rfl

section Pointed

variable {digits whole tail : List Char} {decimals : Nat}

theorem isWhole_of_leftpad (allDigits : AllDigits digits) (noLeadingZero : digits.head? ≠ some '0')
    (split : whole ++ tail = digits.leftpad (decimals + 1) '0') (length : tail.length = decimals) :
    IsWhole whole := by
  have total : whole.length + decimals = max (decimals + 1) digits.length := by
    rw [← length, ← List.length_append, split, List.length_leftpad, length]
  have nonempty : whole ≠ [] := by
    apply List.ne_nil_of_length_pos
    omega
  refine ⟨nonempty, ?_, ?_⟩
  · have padded := allDigits.leftpad (decimals + 1)
    rw [← split] at padded
    exact padded.left
  · intro zero
    by_cases short : digits.length ≤ decimals
    · rcases List.length_eq_one_iff.1 (show whole.length = 1 by omega) with ⟨first, rfl⟩
      rw [List.head?_cons, Option.some.injEq] at zero
      rw [zero]
    · have unpadded : digits.leftpad (decimals + 1) '0' = digits := by
        simp [List.leftpad, show decimals + 1 - digits.length = 0 by omega]
      rw [← unpadded, ← split, List.head?_append, zero] at noLeadingZero
      exact absurd rfl noLeadingZero

theorem isFraction_of_leftpad (allDigits : AllDigits digits)
    (split : whole ++ tail = digits.leftpad (decimals + 1) '0')
    (nonempty : dropTrailingZeros tail ≠ []) : IsFraction (dropTrailingZeros tail) := by
  refine ⟨nonempty, ?_, getLast?_dropTrailingZeros_ne tail⟩
  rcases exists_append_zeros tail with ⟨count, dropped⟩
  have padded := allDigits.leftpad (decimals + 1)
  rw [← split, dropped] at padded
  exact padded.right.left

theorem isPlainMagnitude_pointed (nonempty : digits ≠ []) (allDigits : AllDigits digits)
    (noLeadingZero : digits.head? ≠ some '0') (decimals : Nat) :
    IsPlainMagnitude (pointed digits decimals) ∧ pointed digits decimals ≠ ['0'] := by
  rcases exists_pointed digits decimals with ⟨whole, tail, split, length, written⟩
  have isWhole := isWhole_of_leftpad allDigits noLeadingZero split length
  rw [written]
  split
  next dropped =>
    refine ⟨.whole isWhole, ?_⟩
    rintro rfl
    -- All digits would be zero, and the first one is not.
    rcases exists_append_zeros tail with ⟨count, zeros⟩
    rw [dropped, List.nil_append] at zeros
    rcases List.exists_cons_of_ne_nil nonempty with ⟨first, rest, rfl⟩
    have member : first ∈ (first :: rest).leftpad (decimals + 1) '0' :=
      List.mem_append_right _ List.mem_cons_self
    rw [← split, zeros] at member
    have zero : first = '0' := by
      rcases List.mem_append.1 member with single | many
      · exact List.mem_singleton.1 single
      · exact List.eq_of_mem_replicate many
    exact noLeadingZero (by rw [zero, List.head?_cons])
  next kept =>
    refine ⟨.pointed isWhole (isFraction_of_leftpad allDigits split kept), ?_⟩
    intro zero
    have point : '.' ∈ ['0'] := zero ▸ List.mem_append_right whole List.mem_cons_self
    exact absurd point (by decide)

theorem length_pointed_le (digits : List Char) (decimals : Nat) :
    (pointed digits decimals).length ≤ max digits.length (decimals + 1) + 1 := by
  rcases exists_pointed digits decimals with ⟨whole, tail, split, -, written⟩
  have total : whole.length + tail.length = max (decimals + 1) digits.length := by
    rw [← List.length_append, split, List.length_leftpad]
  rcases exists_append_zeros tail with ⟨count, zeros⟩
  have shorter : (dropTrailingZeros tail).length ≤ tail.length := by
    rw [congrArg List.length zeros, List.length_append]
    omega
  rw [written]
  split
  · omega
  · rw [List.length_append, List.length_cons]
    omega

end Pointed

variable {value : Decimal}

theorem isPlainMagnitude_plainMagnitude (nonzero : ¬value.isZero) :
    IsPlainMagnitude value.plainMagnitude ∧ value.plainMagnitude ≠ ['0'] := by
  have positive := natAbs_mantissa_pos nonzero
  have nonempty := digitsOf_ne_nil value.mantissa.natAbs
  have allDigits := allDigits_digitsOf value.mantissa.natAbs
  have noLeadingZero := head?_digitsOf_ne_zero positive
  simp only [plainMagnitude]
  split
  next integral =>
    let zeros := List.replicate value.scale.natAbs '0'
    have first : (digitsOf value.mantissa.natAbs ++ zeros).head? ≠ some '0' := by
      rcases List.exists_cons_of_ne_nil nonempty with ⟨digit, rest, digits⟩
      rwa [digits] at noLeadingZero ⊢
    refine ⟨.whole ⟨List.append_ne_nil_of_left_ne_nil nonempty zeros,
      allDigits.append (.zeros value.scale.natAbs), ?_⟩, ?_⟩
    · intro zero
      exact absurd zero first
    · intro zero
      exact first (by rw [zero, List.head?_cons])
  next fractional => exact isPlainMagnitude_pointed nonempty allDigits noLeadingZero _

theorem length_plainMagnitude_le (value : Decimal) :
    value.plainMagnitude.length ≤ value.plainLength := by
  simp only [plainMagnitude, plainLength, digits, digitCount]
  split
  · exact Nat.le_of_eq (by rw [List.length_append, List.length_replicate])
  · exact length_pointed_le _ _

/-- The text of a decimal is plain. -/
theorem isPlain_plainChars (value : Decimal) : IsPlain value.plainChars := by
  simp only [plainChars]
  split
  next zero =>
    exact ⟨.whole ⟨List.cons_ne_nil _ _, .zeros 1, fun _ => rfl⟩, by decide⟩
  next nonzero =>
    rcases isPlainMagnitude_plainMagnitude nonzero with ⟨plain, notZero⟩
    split
    next negative =>
      refine ⟨plain, ?_⟩
      intro negativeZero
      exact notZero (List.cons.inj negativeZero).2
    next nonnegative =>
      refine ⟨?_, ?_⟩
      · rwa [unsigned_of_head?_ne plain.head?_ne_minus]
      · intro negativeZero
        exact plain.head?_ne_minus (by rw [negativeZero, List.head?_cons])

theorem unsigned_plainChars (nonzero : ¬value.isZero) :
    unsigned value.plainChars = value.plainMagnitude := by
  rw [plainChars, if_neg nonzero]
  split
  · rfl
  · exact unsigned_of_head?_ne (isPlainMagnitude_plainMagnitude nonzero).1.head?_ne_minus

/-! ## Shown decimals -/

/-- Whether a display accepts the text of a decimal. -/
def Shown (context : Context) (value : Decimal) : Prop :=
  ∃ text, value.render context = .ok text

variable {context : Context} {text : String}

theorem eq_plainText_of_render (rendered : value.render context = .ok text) :
    text = value.plainText := by
  simp only [render] at rendered
  split at rendered
  · cases rendered
  · exact (Except.ok.inj rendered).symm

theorem render_of_shown (shown : value.Shown context) :
    value.render context = .ok value.plainText := by
  rcases shown with ⟨text, rendered⟩
  rw [rendered, eq_plainText_of_render rendered]

theorem render_of_not_shown (notShown : ¬value.Shown context) :
    value.render context = .error (.excess .textLength) := by
  cases rendered : value.render context with
  | ok text => exact absurd ⟨text, rendered⟩ notShown
  | error cause => rw [render_cause rendered]

theorem isPlain_of_render (rendered : value.render context = .ok text) :
    IsPlain text.toList := by
  rw [eq_plainText_of_render rendered, plainText, String.toList_ofList]
  exact isPlain_plainChars value

theorem Shown.plainLength_le (shown : value.Shown context) (nonzero : ¬value.isZero) :
    value.plainLength ≤ context.displayLimit := by
  rcases shown with ⟨text, rendered⟩
  apply Nat.le_of_not_lt
  intro long
  simp [render, nonzero, long] at rendered

end Decimal

end DecimalCalculator
