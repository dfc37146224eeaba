/-!
# Powers of ten and of two

Decimals are moved by powers of ten, binary numbers by powers of two. Both are natural numbers
here, and are written by name wherever the library computes with them.
-/

namespace DecimalCalculator

def tenTo (exponent : Nat) : Nat := Nat.pow 10 exponent

def twoTo (exponent : Nat) : Nat := Nat.pow 2 exponent

@[simp]
theorem tenTo_zero : tenTo 0 = 1 := rfl

theorem tenTo_succ (exponent : Nat) : tenTo (exponent + 1) = tenTo exponent * 10 := rfl

theorem tenTo_pos (exponent : Nat) : 0 < tenTo exponent :=
  Nat.pow_pos (by decide)

theorem tenTo_le_tenTo {small large : Nat} (ordered : small ≤ large) :
    tenTo small ≤ tenTo large :=
  Nat.pow_le_pow_right (by decide) ordered

@[simp]
theorem twoTo_zero : twoTo 0 = 1 := rfl

theorem twoTo_succ (exponent : Nat) : twoTo (exponent + 1) = twoTo exponent * 2 := rfl

theorem twoTo_pos (exponent : Nat) : 0 < twoTo exponent :=
  Nat.pow_pos (by decide)

end DecimalCalculator
