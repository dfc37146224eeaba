import DecimalCalculator.Decimal.Factorial
import DecimalCalculator.Proofs.Decimal.Truncation
import Mathlib.Data.Nat.Factorial.Basic

/-!
# Factorials of numbers

The factorial of a decimal is that of its number, cut toward zero. It is exact up to the limit of
the context. A number that is cut to a negative integer has none, and one that is cut to an integer
beyond the limit is refused.

The integer part is a signed word or missing, and it is missing on both sides of the words. The sign
of the decimal then tells the two sides apart. Where there is an integer part, the sign of the
decimal must not be asked: numbers between minus one and zero are negative, and are cut to zero.
-/

namespace DecimalCalculator

theorem factorial_eq_natFactorial (number : ℕ) : factorial number = number.factorial := by
  induction number with
  | zero => rfl
  | succ number ih => rw [factorial, ih, Nat.factorial_succ]

namespace Decimal

variable {context : Context} {value : Decimal}

theorem factorial_of_integerPart {integer : ℤ} (whole : value.integerPart? = some integer) :
    value.factorial context =
      if integer < 0 then .error .negativeFactorial
      else if context.factorialLimit < integer.toNat then
        .error (.excess (.factorialSize context.factorialLimit))
      else .ok (ofInt integer.toNat.factorial) := by
  simp only [factorial, whole, factorial_eq_natFactorial]

theorem factorial_of_below (below : truncation value.toRat < -2 ^ 63) :
    value.factorial context = .error .negativeFactorial := by
  have missing : value.integerPart? = none := by
    rw [integerPart?_eq]
    exact word?_eq_none_iff.2 (.inl below)
  have negative : value.isNegative := by
    rw [isNegative_iff]
    by_contra nonnegative
    have := truncation_nonneg (not_lt.1 nonnegative)
    omega
  simp only [factorial, missing, negative, if_true]

theorem factorial_of_above (above : 2 ^ 63 - 1 < truncation value.toRat) :
    value.factorial context = .error (.excess .factorialRange) := by
  have missing : value.integerPart? = none := by
    rw [integerPart?_eq]
    exact word?_eq_none_iff.2 (.inr above)
  have nonnegative : ¬value.isNegative := by
    intro negative
    have := truncation_nonpos (isNegative_iff.1 negative)
    omega
  simp only [factorial, missing, nonnegative]
  rfl

/-- The factorial of a decimal, by its number cut toward zero: exact from zero to the limit,
refused as negative below, and as an excess beyond. An excess tells the limit, or that the integer
is no machine word. -/
theorem factorial_of_truncation (value : Decimal) (bounded : context.factorialLimit < 2 ^ 63) :
    (0 ≤ truncation value.toRat → truncation value.toRat ≤ context.factorialLimit →
        value.factorial context = .ok (ofInt (truncation value.toRat).toNat.factorial)) ∧
      (truncation value.toRat < 0 → value.factorial context = .error .negativeFactorial) ∧
      (context.factorialLimit < truncation value.toRat →
        value.factorial context =
          .error (.excess (if truncation value.toRat < 2 ^ 63 then
            .factorialSize context.factorialLimit else .factorialRange))) := by
  have whole (least : -2 ^ 63 ≤ truncation value.toRat)
      (largest : truncation value.toRat ≤ 2 ^ 63 - 1) :
      value.integerPart? = some (truncation value.toRat) := by
    rw [integerPart?_eq]
    exact word?_eq_some_iff.2 ⟨rfl, least, largest⟩
  refine ⟨?_, ?_, ?_⟩
  · intro nonnegative limited
    rw [factorial_of_integerPart (whole (by omega) (by omega)), if_neg (by omega),
      if_neg (by omega)]
  · intro negative
    by_cases least : -2 ^ 63 ≤ truncation value.toRat
    · rw [factorial_of_integerPart (whole least (by omega)), if_pos negative]
    · exact factorial_of_below (not_le.1 least)
  · intro exceeding
    by_cases largest : truncation value.toRat ≤ 2 ^ 63 - 1
    · rw [factorial_of_integerPart (whole (by omega) largest), if_neg (by omega),
        if_pos (by omega), if_pos (by omega)]
    · rw [factorial_of_above (not_le.1 largest), if_neg (by omega)]

/-- A negative number may be cut to zero, which has a factorial. Far outside the words the sign of
the number is all that is left of it. -/
theorem factorial_of_truncation_tenths :
    Context.default.factorialLimit < 2 ^ 63 ∧
      (truncation (toRat ⟨-9, 1⟩) = 0 ∧ factorial Context.default ⟨-9, 1⟩ = .ok ⟨1, 0⟩) ∧
      (truncation (toRat ⟨-1, -30⟩) = -10 ^ 30 ∧
        factorial Context.default ⟨-1, -30⟩ = .error .negativeFactorial) ∧
      truncation (toRat ⟨1, -30⟩) = 10 ^ 30 ∧
        factorial Context.default ⟨1, -30⟩ = .error (.excess .factorialRange) := by
  have bounded : Context.default.factorialLimit < 2 ^ 63 := by decide
  have tenths : truncation (toRat ⟨-9, 1⟩) = 0 := by
    rw [toRat_of_scale_nonneg (by decide), truncation_div]
    rfl
  have below : truncation (toRat ⟨-1, -30⟩) = -10 ^ 30 := by
    rw [toRat_of_scale_nonpos (by decide), truncation_intCast]
    rfl
  have above : truncation (toRat ⟨1, -30⟩) = 10 ^ 30 := by
    rw [toRat_of_scale_nonpos (by decide), truncation_intCast]
    rfl
  refine ⟨bounded, ⟨tenths, ?_⟩, ⟨below, ?_⟩, above, ?_⟩
  · have exact := (factorial_of_truncation ⟨-9, 1⟩ bounded).1
    rw [tenths] at exact
    exact exact (le_refl 0) (by simp)
  · exact (factorial_of_truncation ⟨-1, -30⟩ bounded).2.1 (by rw [below]; decide)
  · have excess := (factorial_of_truncation ⟨1, -30⟩ bounded).2.2
    rw [above] at excess
    exact excess (by decide)

end Decimal

end DecimalCalculator
