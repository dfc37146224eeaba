import DecimalCalculator.Powers

/-!
# Decimal digits

Numbers are written and read as lists of digit characters, most significant digit first.
This file fixes the two directions for natural numbers, the number of digits, and the one
rounding rule of the whole library: an exact quotient goes to the nearest integer, and a
quotient halfway between two integers goes to the even one.
-/

namespace DecimalCalculator

/-- The last `2 ^ level` digits of a number, with zeros in front if it has fewer. The digits are
found by cutting the number in two halves of equal length, which is fast for long numbers. -/
def lastDigits : (level number : Nat) → List Char
  | 0, number => [Nat.digitChar (number % 10)]
  | level + 1, number =>
    let unit := tenTo (twoTo level)
    lastDigits level (number / unit) ++ lastDigits level (number % unit)

/-- A level at which `lastDigits` gives all digits of a number. A digit takes more than three
bits. -/
def digitLevel (number : Nat) : Nat :=
  (number.log2 / 3 + 1).log2 + 1

def digitsOf (number : Nat) : List Char :=
  if number = 0 then ['0'] else (lastDigits (digitLevel number) number).dropWhile (· == '0')

def digitCount (number : Nat) : Nat :=
  (digitsOf number).length

def readDigits? (text : List Char) : Option Nat :=
  if text.isEmpty || !text.all Char.isDigit then none
  else some (Nat.ofDigitChars 10 text 0)

/-- Reads an integer: at most one sign, then a non-empty run of digits. -/
def readInteger? : List Char → Option Int
  | '-' :: digits => (readDigits? digits).map fun magnitude => -(magnitude : Int)
  | '+' :: digits => (readDigits? digits).map fun magnitude => (magnitude : Int)
  | digits => (readDigits? digits).map fun magnitude => (magnitude : Int)

def dropTrailingZeros (digits : List Char) : List Char :=
  (digits.reverse.dropWhile (· == '0')).reverse

/-- The number of zeros that end the decimal writing of a number. Zero itself counts none. -/
def trailingZeros (number : Nat) : Nat :=
  if number = 0 then 0 else ((digitsOf number).reverse.takeWhile (· == '0')).length

/-- The quotient rounded to the nearest integer, a half going to the even neighbour. -/
def divideToEven (numerator denominator : Nat) : Nat :=
  let quotient := numerator / denominator
  let remainder := numerator % denominator
  if denominator < 2 * remainder ∨ (2 * remainder = denominator ∧ quotient % 2 = 1) then
    quotient + 1
  else quotient

/-! ## Agreement with the digits of the standard library -/

/-- The digits of a number cut or padded to a width, found one by one. -/
def fixedDigits : (width number : Nat) → List Char
  | 0, _ => []
  | width + 1, number => fixedDigits width (number / 10) ++ [Nat.digitChar (number % 10)]

theorem fixedDigits_add (front back number : Nat) :
    fixedDigits (front + back) number =
      fixedDigits front (number / tenTo back) ++ fixedDigits back (number % tenTo back) := by
  induction back generalizing number with
  | zero => simp [fixedDigits]
  | succ back ih =>
    have quotient : number / 10 / tenTo back = number / tenTo (back + 1) := by
      rw [Nat.div_div_eq_div_mul, tenTo_succ, Nat.mul_comm]
    have remainder : number / 10 % tenTo back = number % tenTo (back + 1) / 10 := by
      rw [tenTo_succ, Nat.mul_comm, Nat.mod_mul_right_div_self]
    have last : number % tenTo (back + 1) % 10 = number % 10 := by
      rw [tenTo_succ, Nat.mul_comm, Nat.mod_mul_right_mod]
    rw [← Nat.add_assoc, fixedDigits, ih, fixedDigits, quotient, remainder, last,
      List.append_assoc]

theorem lastDigits_eq_fixedDigits (level number : Nat) :
    lastDigits level number = fixedDigits (twoTo level) number := by
  induction level generalizing number with
  | zero => simp [lastDigits, fixedDigits]
  | succ level ih => rw [lastDigits, ih, ih, twoTo_succ, Nat.mul_two, fixedDigits_add]

theorem fixedDigits_zero (width : Nat) : fixedDigits width 0 = List.replicate width '0' := by
  induction width with
  | zero => rfl
  | succ width ih => simp [fixedDigits, ih, Nat.digitChar, List.replicate_succ']

theorem digitChar_eq_zero_iff {digit : Nat} (bounded : digit < 10) :
    Nat.digitChar digit = '0' ↔ digit = 0 := by
  have : digit = 0 ∨ digit = 1 ∨ digit = 2 ∨ digit = 3 ∨ digit = 4 ∨ digit = 5 ∨ digit = 6 ∨
    digit = 7 ∨ digit = 8 ∨ digit = 9 := by omega
  rcases this with rfl | rfl | rfl | rfl | rfl | rfl | rfl | rfl | rfl | rfl <;> decide

theorem dropWhile_fixedDigits {width number : Nat} (positive : 0 < number)
    (bounded : number < tenTo width) :
    (fixedDigits width number).dropWhile (· == '0') = Nat.toDigits 10 number := by
  induction width generalizing number with
  | zero =>
    rw [tenTo_zero] at bounded
    omega
  | succ width ih =>
    rw [fixedDigits, Nat.toDigits_eq_if (by decide)]
    by_cases small : number < 10
    · have quotient : number / 10 = 0 := Nat.div_eq_of_lt small
      have digit : Nat.digitChar number ≠ '0' := by
        rw [Ne, digitChar_eq_zero_iff small]
        omega
      simp [small, quotient, fixedDigits_zero, Nat.mod_eq_of_lt small, digit]
    · have front : (fixedDigits width (number / 10)).dropWhile (· == '0') =
          Nat.toDigits 10 (number / 10) :=
        ih (by omega) (by rw [tenTo_succ] at bounded; omega)
      have nonempty : Nat.toDigits 10 (number / 10) ≠ [] :=
        List.ne_nil_of_length_pos Nat.length_toDigits_pos
      simp [small, List.dropWhile_append, front, nonempty]

theorem lt_digitLevel (number : Nat) : number < tenTo (twoTo (digitLevel number)) := by
  have bits : number < 2 ^ (number.log2 + 1) := Nat.lt_log2_self
  have thirds : number.log2 + 1 ≤ 3 * (number.log2 / 3 + 1) := by omega
  have level : number.log2 / 3 + 1 < twoTo (digitLevel number) := Nat.lt_log2_self
  calc
    number < 2 ^ (number.log2 + 1) := bits
    _ ≤ 2 ^ (3 * (number.log2 / 3 + 1)) := Nat.pow_le_pow_right (by decide) thirds
    _ = 8 ^ (number.log2 / 3 + 1) := by rw [Nat.pow_mul]
    _ ≤ tenTo (number.log2 / 3 + 1) := Nat.pow_le_pow_left (by decide) _
    _ ≤ tenTo (twoTo (digitLevel number)) := tenTo_le_tenTo (Nat.le_of_lt level)

@[simp]
theorem digitsOf_eq_toDigits (number : Nat) : digitsOf number = Nat.toDigits 10 number := by
  by_cases zero : number = 0
  · subst zero
    rfl
  · rw [digitsOf, if_neg zero, lastDigits_eq_fixedDigits,
      dropWhile_fixedDigits (Nat.pos_of_ne_zero zero) (lt_digitLevel number)]

/-! ## Counting and reading digits -/

theorem digitCount_le_iff {number bound : Nat} (positive : 0 < bound) :
    digitCount number ≤ bound ↔ number < tenTo bound := by
  rw [digitCount, digitsOf_eq_toDigits]
  exact Nat.length_toDigits_le_iff (by decide) positive

theorem digitCount_pos (number : Nat) : 0 < digitCount number := by
  rw [digitCount, digitsOf_eq_toDigits]
  exact Nat.length_toDigits_pos

theorem lt_tenTo_digitCount (number : Nat) : number < tenTo (digitCount number) :=
  (digitCount_le_iff (digitCount_pos number)).1 (Nat.le_refl _)

theorem tenTo_digitCount_pred_le {number : Nat} (positive : 0 < number) :
    tenTo (digitCount number - 1) ≤ number := by
  by_cases single : digitCount number = 1
  · rw [single]
    exact positive
  · apply Nat.le_of_not_lt
    intro small
    have digits := digitCount_pos number
    have fewer := (digitCount_le_iff (by omega : 0 < digitCount number - 1)).2 small
    omega

theorem readDigits?_digitsOf (number : Nat) : readDigits? (digitsOf number) = some number := by
  have nonempty : (Nat.toDigits 10 number).isEmpty = false := by
    have := @Nat.length_toDigits_pos 10 number
    cases h : Nat.toDigits 10 number <;> simp_all
  have allDigits : (Nat.toDigits 10 number).all Char.isDigit = true := by
    rw [List.all_eq_true]
    intro digit member
    exact Nat.isDigit_of_mem_toDigits (by decide) (by decide) member
  simp [readDigits?, nonempty, allDigits, Nat.ofDigitChars_toDigits]

theorem trailingZeros_of_mod_ne_zero {number : Nat} (last : number % 10 ≠ 0) :
    trailingZeros number = 0 := by
  have digit : Nat.digitChar (number % 10) ≠ '0' := by
    rw [Ne, digitChar_eq_zero_iff (Nat.mod_lt _ (by decide))]
    exact last
  by_cases small : number < 10
  · simp_all [trailingZeros, Nat.toDigits_of_lt_base, Nat.mod_eq_of_lt]
  · rw [trailingZeros, digitsOf_eq_toDigits, Nat.toDigits_eq_if (by decide)]
    simp [small, digit]

theorem trailingZeros_mul_ten {number : Nat} (positive : 0 < number) :
    trailingZeros (number * 10) = trailingZeros number + 1 := by
  have large : ¬number * 10 < 10 := by omega
  have quotient : number * 10 / 10 = number := Nat.mul_div_cancel number (by decide)
  have digit : Nat.digitChar (number * 10 % 10) = '0' := by rw [Nat.mul_mod_left]; rfl
  rw [trailingZeros, trailingZeros, if_neg (by omega), if_neg (by omega), digitsOf_eq_toDigits,
    digitsOf_eq_toDigits, Nat.toDigits_eq_if (by decide), if_neg large, quotient, digit,
    List.reverse_append, List.reverse_singleton, List.singleton_append,
    List.takeWhile_cons_of_pos (by decide), List.length_cons]

end DecimalCalculator
