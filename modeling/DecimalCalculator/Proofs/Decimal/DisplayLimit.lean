import DecimalCalculator.Proofs.Decimal.Uniqueness

/-!
# The texts that a display refuses

A display accepts texts up to a length, and the length is checked before a text is made. What is
checked is the length that the text has while nothing is dropped from its end: the zeros that end a
fraction count, and so does the point in front of them where the whole fraction is zeros.

The plain text of the number is therefore not all that decides. A decimal that is written with zeros
at the end is refused by a display that has room for its plain text and shows the same number
written without them. The characters that are dropped are the only difference: put back behind the
plain text, they give exactly the length that is checked. A text that is too long itself is always
refused, and a decimal that ends with another digit than zero is refused for no other reason.
-/

namespace DecimalCalculator

/-! ## Zeros at the end of digits -/

theorem length_dropTrailingZeros (digits : List Char) :
    (dropTrailingZeros digits).length + (digits.reverse.takeWhile (· == '0')).length =
      digits.length := by
  have parts := congrArg List.length
    (@List.takeWhile_append_dropWhile _ (· == '0') digits.reverse)
  rw [List.length_append, List.length_reverse] at parts
  rw [dropTrailingZeros, List.length_reverse]
  omega

theorem trailingZeros_eq_zero_iff {number : ℕ} (positive : 0 < number) :
    trailingZeros number = 0 ↔ number % 10 ≠ 0 := by
  constructor
  · intro none multiple
    have split : number = number / 10 * 10 := by omega
    rw [split, trailingZeros_mul_ten (by omega)] at none
    exact absurd none (Nat.succ_ne_zero _)
  · exact trailingZeros_of_mod_ne_zero

/-- Zeros in front of digits are not reached from the end, so of the last digits as many are zeros
as there are zeros at the end of all of them. -/
theorem length_takeWhile_of_leftpad {digits whole tail : List Char} {decimals : ℕ}
    (nonempty : digits ≠ []) (noLeadingZero : digits.head? ≠ some '0')
    (split : whole ++ tail = digits.leftpad (decimals + 1) '0') (length : tail.length = decimals) :
    (tail.reverse.takeWhile (· == '0')).length =
      min decimals (digits.reverse.takeWhile (· == '0')).length := by
  have reversed : tail.reverse ++ whole.reverse =
      digits.reverse ++ List.replicate (decimals + 1 - digits.length) '0' := by
    rw [← List.reverse_append, split, List.leftpad, List.reverse_append, List.reverse_replicate]
  have last : tail.reverse =
      (digits.reverse ++ List.replicate (decimals + 1 - digits.length) '0').take decimals := by
    rw [← reversed, List.take_left' (by rw [List.length_reverse, length])]
  have stops : (digits.reverse.takeWhile (· == '0')).length ≠ digits.reverse.length := by
    intro through
    have allZeros := (List.takeWhile_prefix (· == '0')).eq_of_length through
    rcases List.exists_cons_of_ne_nil nonempty with ⟨first, rest, rfl⟩
    have zero := List.takeWhile_eq_self_iff.1 allZeros first (by simp)
    exact noLeadingZero (by rw [List.head?_cons, eq_of_beq zero])
  rw [last, ← List.take_takeWhile, List.takeWhile_append, if_neg stops, List.length_take]

namespace Decimal

/-! ## What is dropped from the end of a text -/

/-- The characters that are dropped from the end of the text of a decimal: the zeros that end its
fraction, and the point as well if the fraction is made of zeros. -/
def droppedEnd (value : Decimal) : List Char :=
  let zeros := trailingZeros value.mantissa.natAbs
  if value.scale ≤ 0 then []
  else if value.scale.natAbs ≤ zeros then '.' :: List.replicate value.scale.natAbs '0'
  else List.replicate zeros '0'

theorem length_pointed {digits : List Char} (nonempty : digits ≠ [])
    (noLeadingZero : digits.head? ≠ some '0') (decimals : ℕ) :
    (pointed digits decimals).length +
        (if decimals ≤ (digits.reverse.takeWhile (· == '0')).length then decimals + 1
          else (digits.reverse.takeWhile (· == '0')).length) =
      max digits.length (decimals + 1) + 1 := by
  rcases exists_pointed digits decimals with ⟨whole, tail, split, length, written⟩
  have total : whole.length + decimals = max (decimals + 1) digits.length := by
    rw [← length, ← List.length_append, split, List.length_leftpad, length]
  have kept := length_dropTrailingZeros tail
  rw [length_takeWhile_of_leftpad nonempty noLeadingZero split length, length] at kept
  rw [written]
  by_cases dropped : dropTrailingZeros tail = []
  · rw [dropped, List.length_nil] at kept
    rw [if_pos dropped, if_pos (by omega)]
    omega
  · have left := List.length_pos_of_ne_nil dropped
    rw [if_neg dropped, if_neg (by omega), List.length_append, List.length_cons]
    omega

variable {value : Decimal}

/-- The length that is checked is that of the text with what is dropped from its end. -/
theorem length_append_droppedEnd (nonzero : ¬value.isZero) :
    (value.plainMagnitude ++ value.droppedEnd).length = value.plainLength := by
  have positive := natAbs_mantissa_pos nonzero
  simp only [plainMagnitude, droppedEnd, plainLength, digits, digitCount, trailingZeros,
    if_neg positive.ne', List.length_append]
  split
  next integral => rw [List.length_append, List.length_replicate, List.length_nil, Nat.add_zero]
  next fractional =>
    rw [← length_pointed (digitsOf_ne_nil _) (head?_digitsOf_ne_zero positive) value.scale.natAbs]
    congr 1
    split
    · rw [List.length_cons, List.length_replicate]
    · rw [List.length_replicate]

/-- Nothing is dropped from a decimal without a fraction, nor from one whose last digit is not
zero. -/
theorem droppedEnd_eq_nil_iff (nonzero : ¬value.isZero) :
    value.droppedEnd = [] ↔ value.scale ≤ 0 ∨ value.mantissa % 10 ≠ 0 := by
  have positive := natAbs_mantissa_pos nonzero
  have zeros := trailingZeros_eq_zero_iff positive
  have last : value.mantissa.natAbs % 10 ≠ 0 ↔ value.mantissa % 10 ≠ 0 := by omega
  rw [last] at zeros
  simp only [droppedEnd]
  split
  next integral => exact iff_of_true rfl (.inl integral)
  next fractional =>
    rw [or_iff_right fractional, ← zeros]
    split
    next allZeros => exact iff_of_false (List.cons_ne_nil _ _) (by omega)
    next => rw [List.replicate_eq_nil_iff]

/-! ## Refused texts -/

variable {text : String}

theorem unsigned_eq_plainMagnitude (nonzero : ¬value.isZero)
    (shows : IsPlainTextOf text value.toRat) : unsigned text.toList = value.plainMagnitude := by
  rw [shows.unique (isPlainTextOf_plainText value), plainText, String.toList_ofList,
    unsigned_plainChars nonzero]

/-- A decimal other than zero is refused exactly if its plain text, with what was dropped from the
end put back and the sign apart, is longer than the display accepts, and shown by its plain text
otherwise. Nothing is dropped, so that the plain text alone decides, exactly if the decimal has no
fraction or ends with a digit other than zero. -/
theorem render_eq_error_iff (nonzero : ¬value.isZero) (shows : IsPlainTextOf text value.toRat) :
    (∀ context : Context,
        (value.render context = .error (.excess .textLength) ↔
          context.displayLimit < (unsigned text.toList ++ value.droppedEnd).length) ∧
        (value.render context = .ok text ↔
          (unsigned text.toList ++ value.droppedEnd).length ≤ context.displayLimit)) ∧
      (value.droppedEnd = [] ↔ value.scale ≤ 0 ∨ value.mantissa % 10 ≠ 0) := by
  refine ⟨?_, droppedEnd_eq_nil_iff nonzero⟩
  intro context
  rw [unsigned_eq_plainMagnitude nonzero shows, length_append_droppedEnd nonzero,
    shows.unique (isPlainTextOf_plainText value), render]
  split
  next long =>
    refine ⟨iff_of_true rfl long.2, iff_of_false ?_ (Nat.not_le_of_lt long.2)⟩
    intro shown
    cases shown
  next short =>
    have fits : value.plainLength ≤ context.displayLimit :=
      Nat.le_of_not_lt fun long => short ⟨nonzero, long⟩
    refine ⟨iff_of_false ?_ (Nat.not_lt_of_le fits), iff_of_true rfl fits⟩
    intro refused
    cases refused

/-- Two zeros at the end are counted: a display of six shows the decimal, and one of five refuses
it. -/
theorem render_eq_error_iff_two_zeros :
    ¬(⟨-12300, 4⟩ : Decimal).isZero ∧ IsPlainTextOf "-1.23" (toRat ⟨-12300, 4⟩) ∧
      (⟨-12300, 4⟩ : Decimal).render { Context.default with displayLimit := 5 } =
        .error (.excess .textLength) ∧
      (⟨-12300, 4⟩ : Decimal).render { Context.default with displayLimit := 6 } = .ok "-1.23" := by
  have nonzero : ¬(⟨-12300, 4⟩ : Decimal).isZero := by decide
  have written : (⟨-12300, 4⟩ : Decimal).plainText = "-1.23" := by decide
  have shows : IsPlainTextOf "-1.23" (toRat ⟨-12300, 4⟩) := written ▸ isPlainTextOf_plainText _
  rcases render_eq_error_iff nonzero shows with ⟨decided, -⟩
  refine ⟨nonzero, shows, ?_, ?_⟩
  · exact (decided { Context.default with displayLimit := 5 }).1.2 (by decide)
  · exact (decided { Context.default with displayLimit := 6 }).2.2 (by decide)

/-- A display of three characters has room for the plain text of one and a half, but refuses it
where it is written with a zero at the end. -/
theorem render_refuses_fitting_text :
    ¬∀ (context : Context) (value : Decimal) (text : String), ¬value.isZero →
      IsPlainTextOf text value.toRat →
        (value.render context = .error (.excess .textLength) ↔
          context.displayLimit < (unsigned text.toList).length) := by
  intro claimed
  have written : (⟨150, 2⟩ : Decimal).plainText = "1.5" := by decide
  have shows : IsPlainTextOf "1.5" (toRat ⟨150, 2⟩) := written ▸ isPlainTextOf_plainText _
  have refused : (⟨150, 2⟩ : Decimal).render { Context.default with displayLimit := 3 } =
      .error (.excess .textLength) := by decide
  have long := (claimed _ _ _ (by decide) shows).1 refused
  exact absurd long (by decide)

end Decimal

end DecimalCalculator
