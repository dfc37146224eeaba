import DecimalCalculator.Binary64.Nearest

/-!
# Binary numbers for integers

An integer of at most 64 bits goes to the nearest binary number. A longer one is first condensed
to its leading 64 bits, the last of which is set where a lost bit is seen, so that the rounding
that follows does not take the number for a half. Lost bits are looked for by words of 64 bits:
of each word, only as many of its last bits count as the leading word has. A number whose lost
bits all lie higher in their words is therefore rounded like the half below it.
-/

namespace DecimalCalculator.Binary64

def wordBits : Nat := 64

def leadingBits (number : Nat) : Nat := number.log2 % wordBits + 1

/-- Whether one of the last `count` words of a number has a bit set among its last `seen`
bits. -/
def hasTail (seen : Nat) : Nat → Nat → Bool
  | 0, _ => false
  | count + 1, number =>
      number % twoTo seen != 0 || hasTail seen count (number / twoTo wordBits)

/-- Whether a word below the leading one has a bit set among its last bits, as many of them as
the leading word has. In the word next to the leading one those are just the lost bits. -/
def hasVisibleTail (number : Nat) : Bool :=
  hasTail (leadingBits number) (number.log2 / wordBits) number

/-- A number with zeros behind its leading 64 bits, the last of which is set for a visible
tail. -/
def condensed (number : Nat) : Nat :=
  if number < twoTo wordBits then number
  else
    let lost := number.log2 + 1 - wordBits
    let head := number / twoTo lost
    (if head % 2 = 0 ∧ hasVisibleTail number then head + 1 else head) * twoTo lost

def ofNat (number : Nat) : Float := nearest (condensed number) 1

end DecimalCalculator.Binary64
