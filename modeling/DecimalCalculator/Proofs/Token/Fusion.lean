import DecimalCalculator.Proofs.Token.Spelling

/-!
# Signs that belong to numbers

The tokens of a text are made of its lexemes from left to right, one or two at a time. What becomes
of a lexeme can nevertheless be told from its place alone: a minus sign belongs to the number behind
it if it stands first or behind a lexeme that opens an operand. The lexemes themselves decide, and
not the tokens made of them, so it does not matter which signs in front of it belong to numbers.

Two signs never claim one number, and a sign is never claimed by another one, since a number is no
sign. Every other lexeme is a token by itself.
-/

namespace DecimalCalculator

namespace Lexeme

/-- The lexemes behind which a minus sign is an operator: numerals and words, a closing parenthesis,
and marks. -/
inductive EndsOperand : Lexeme → Prop
  | numeral {lexeme : Lexeme} (hasKind : lexeme.HasKind .numeral) : EndsOperand lexeme
  | word {lexeme : Lexeme} (hasKind : lexeme.HasKind .word) : EndsOperand lexeme
  | closeParen : EndsOperand [')']
  | mark (suffixed : Mark) : EndsOperand [suffixed.symbol]

theorem EndsOperand.opensOperand_eq_false {lexeme : Lexeme} (ends : EndsOperand lexeme) :
    lexeme.opensOperand = false := by
  have notSymbol {kind : LexemeKind} (hasKind : lexeme.HasKind kind) (other : kind ≠ .symbol) :
      lexeme.opensOperand = false := by
    apply Bool.eq_false_iff.2
    intro opens
    exact other (hasKind.unique (hasKind_of_opensOperand opens))
  cases ends with
  | numeral hasKind => exact notSymbol hasKind (by simp)
  | word hasKind => exact notSymbol hasKind (by simp)
  | closeParen => rfl
  | mark suffixed => cases suffixed <;> rfl

end Lexeme

namespace Token

/-- Whether the lexeme at an index is a minus sign that belongs to the number behind it: it stands
first or behind a lexeme that opens an operand, and in front of a number. -/
def isFused (lexemes : List Lexeme) (index : Nat) : Bool :=
  lexemes[index]? == some ['-'] &&
    (index == 0 || lexemes[index - 1]?.any Lexeme.opensOperand) &&
    (lexemes[index + 1]?.bind Decimal.ofChars?).isSome

/-- Whether the lexeme at an index is a number that belongs to the sign in front of it. -/
def isClaimed (lexemes : List Lexeme) : (index : Nat) → Bool
  | 0 => false
  | index + 1 => isFused lexemes index

/-- The token that begins with the lexeme at an index, if one does. -/
def tokenAt (lexemes : List Lexeme) (index : Nat) : Option Token :=
  if isClaimed lexemes index then none
  else if isFused lexemes index then
    (lexemes[index + 1]?.bind Decimal.ofChars?).map fun value => number value.neg
  else lexemes[index]?.map ofLexeme

/-- Whether an operand begins behind lexemes. -/
def opensBehind (lexemes : List Lexeme) : Bool :=
  lexemes.getLast?.all Lexeme.opensOperand

variable {before rest lexemes : List Lexeme} {sign next : Lexeme} {index : Nat}

/-! ## Signs -/

theorem ofChars?_sign : Decimal.ofChars? ['-'] = none :=
  rfl

/-- The lexeme behind a sign that belongs to a number is no sign. -/
theorem not_isFused_succ (fused : isFused lexemes index) : ¬isFused lexemes (index + 1) := by
  intro fusedNext
  simp only [isFused, Bool.and_eq_true, beq_iff_eq] at fused fusedNext
  simp [fusedNext.1.1, ofChars?_sign] at fused

theorem not_isFused_of_length_le (last : lexemes.length ≤ index + 1) :
    ¬isFused lexemes index := by
  simp [isFused, last]

theorem opensBehind_append (before : List Lexeme) (last : Lexeme) :
    opensBehind (before ++ [last]) = last.opensOperand := by
  simp [opensBehind]

/-- A sign is judged by what stands in front of it and by what stands behind it. -/
theorem isFused_append (before : List Lexeme) (sign next : Lexeme) (rest : List Lexeme) :
    isFused (before ++ sign :: next :: rest) before.length =
      (signedNumber? (opensBehind before) sign next).isSome := by
  have opens : (before.length == 0 ||
      (before ++ sign :: next :: rest)[before.length - 1]?.any Lexeme.opensOperand) =
        opensBehind before := by
    rcases List.eq_nil_or_concat before with rfl | ⟨front, last, rfl⟩ <;> simp [opensBehind]
  rw [isFused, opens]
  by_cases isSign : sign = ['-'] <;> cases opensBehind before <;> simp [signedNumber?, isSign]

/-! ## Places -/

theorem tokenAt_of_claimed (claimed : isClaimed lexemes index) : tokenAt lexemes index = none := by
  simp [tokenAt, claimed]

theorem tokenAt_of_single (unclaimed : isClaimed lexemes index = false)
    (unsigned : isFused lexemes index = false) :
    tokenAt lexemes index = lexemes[index]?.map ofLexeme := by
  simp [tokenAt, unclaimed, unsigned]

theorem tokenAt_of_signed {value : Decimal}
    (unclaimed : isClaimed (before ++ sign :: next :: rest) before.length = false)
    (signed : signedNumber? (opensBehind before) sign next = some value) :
    tokenAt (before ++ sign :: next :: rest) before.length = some (number value) := by
  have fused : isFused (before ++ sign :: next :: rest) before.length := by
    simp [isFused_append, signed]
  rcases exists_of_signedNumber? signed with ⟨magnitude, -, read, rfl⟩
  simp [tokenAt, unclaimed, fused, read]

/-- Lexemes are read as their places tell, if the first of them belongs to no sign in front of
them. -/
theorem ofLexemes_eq_filterMap {opening : Bool} (opens : opening = opensBehind before)
    (unclaimed : isClaimed (before ++ rest) before.length = false) :
    ofLexemes opening rest =
      (List.range' before.length rest.length).filterMap (tokenAt (before ++ rest)) := by
  fun_induction ofLexemes opening rest generalizing before with
  | case1 => rfl
  | case2 opening lexeme =>
      have unsigned : isFused (before ++ [lexeme]) before.length = false := by simp [isFused]
      simp [tokenAt_of_single unclaimed unsigned]
  | case3 opening sign next rest value signed ih =>
      subst opens
      have here := tokenAt_of_signed unclaimed signed
      have fused : isFused (before ++ sign :: next :: rest) before.length := by
        simp [isFused_append, signed]
      have claimed : tokenAt (before ++ sign :: next :: rest) (before.length + 1) = none :=
        tokenAt_of_claimed fused
      have unclaimedRest :
          isClaimed ((before ++ [sign, next]) ++ rest) (before ++ [sign, next]).length = false := by
        simpa [isClaimed] using not_isFused_succ fused
      have behind := ih (by simp [opensBehind]) unclaimedRest
      simp only [List.append_assoc, List.cons_append, List.nil_append, List.length_append,
        List.length_cons, List.length_nil] at behind
      simp [List.range'_succ, here, claimed, behind]
  | case4 opening first next rest unsigned ih =>
      subst opens
      have notFused : isFused (before ++ first :: next :: rest) before.length = false := by
        simp [isFused_append, unsigned]
      have here := tokenAt_of_single unclaimed notFused
      have behind := @ih (before ++ [first]) (opensBehind_append before first).symm
        (by simpa [isClaimed] using notFused)
      simp only [List.append_assoc, List.cons_append, List.nil_append, List.length_append,
        List.length_cons, List.length_nil] at behind
      simp [List.range'_succ, here, behind]

theorem isSome_tokenAt (bounded : index < lexemes.length) :
    (tokenAt lexemes index).isSome = !isClaimed lexemes index := by
  cases claimed : isClaimed lexemes index with
  | true => simp [tokenAt_of_claimed claimed]
  | false =>
      cases fused : isFused lexemes index with
      | false => simp [tokenAt_of_single claimed fused, bounded]
      | true =>
          have number := fused
          simp only [isFused, Bool.and_eq_true] at number
          rcases Option.isSome_iff_exists.1 number.2 with ⟨value, read⟩
          simp only [tokenAt, claimed, fused, read]
          rfl

/-- There are as many numbers that belong to a sign as there are signs that belong to a number. -/
theorem countP_isClaimed (lexemes : List Lexeme) :
    (List.range lexemes.length).countP (isClaimed lexemes) =
      (List.range lexemes.length).countP (isFused lexemes) := by
  cases length : lexemes.length with
  | zero => rfl
  | succ last =>
      have unsigned : isFused lexemes last = false := by
        simpa using not_isFused_of_length_le (Nat.le_of_eq length)
      have shifted : isClaimed lexemes ∘ Nat.succ = isFused lexemes := rfl
      calc
        (List.range (last + 1)).countP (isClaimed lexemes) =
            (List.range last).countP (isFused lexemes) := by
          simp [List.range_succ_eq_map, List.countP_map, shifted, isClaimed]
        _ = (List.range (last + 1)).countP (isFused lexemes) := by
          simp [List.range_succ, unsigned]

theorem length_filterMap_tokenAt (lexemes : List Lexeme) :
    ((List.range lexemes.length).filterMap (tokenAt lexemes)).length +
        (List.range lexemes.length).countP (isFused lexemes) = lexemes.length := by
  have tokens : ((List.range lexemes.length).filterMap (tokenAt lexemes)).length =
      (List.range lexemes.length).countP fun index => !isClaimed lexemes index := by
    rw [List.length_filterMap_eq_countP]
    apply List.countP_congr
    intro index member
    rw [isSome_tokenAt (List.mem_range.1 member)]
  have parts :=
    @List.length_eq_countP_add_countP _ (isClaimed lexemes) (List.range lexemes.length)
  rw [List.length_range, countP_isClaimed] at parts
  simp only [Bool.not_eq_true, Bool.decide_eq_false] at parts
  omega

theorem tokenAt_of_endsOperand {previous : Lexeme} (before : lexemes[index]? = some previous)
    (isSign : lexemes[index + 1]? = some ['-']) (ends : previous.EndsOperand) :
    tokenAt lexemes (index + 1) = some (operator .minus) := by
  have unclaimed : isClaimed lexemes (index + 1) = false := by
    simp [isClaimed, isFused, isSign, ofChars?_sign]
  have unsigned : isFused lexemes (index + 1) = false := by
    simp [isFused, before, ends.opensOperand_eq_false]
  rw [tokenAt_of_single unclaimed unsigned, isSign]
  rfl

/-- The tokens of a text are told by the places of its lexemes. Signs that belong to numbers do not
overlap, so there is a token less for each of them; and a sign behind the end of an operand is an
operator. -/
theorem scan_by_place {text : String} {lexemes : List Lexeme}
    (cut : Lexeme.split text.toList = lexemes) :
    scan text = (List.range lexemes.length).filterMap (tokenAt lexemes) ∧
      (∀ index, isFused lexemes index → ¬isFused lexemes (index + 1)) ∧
      (scan text).length + (List.range lexemes.length).countP (isFused lexemes) =
        lexemes.length ∧
      ∀ index previous, lexemes[index]? = some previous → lexemes[index + 1]? = some ['-'] →
        previous.EndsOperand → tokenAt lexemes (index + 1) = some (operator .minus) := by
  have places : scan text = (List.range lexemes.length).filterMap (tokenAt lexemes) := by
    rw [scan, cut, List.range_eq_range']
    exact @ofLexemes_eq_filterMap [] lexemes true rfl rfl
  refine ⟨places, ?_, ?_, ?_⟩
  · intro index fused
    exact not_isFused_succ fused
  · rw [places]
    exact length_filterMap_tokenAt lexemes
  · intro index previous before isSign ends
    exact tokenAt_of_endsOperand before isSign ends

/-- Of the four signs, the one behind the parenthesis and the one behind the mark are operators. -/
theorem scan_by_place_four_signs :
    Lexeme.split "(-2)--3!-.5".toList =
        [['('], ['-'], ['2'], [')'], ['-'], ['-'], ['3'], ['!'], ['-'], ['.', '5']] ∧
      (scan "(-2)--3!-.5").length + 2 = 10 ∧
      tokenAt [['('], ['-'], ['2'], [')'], ['-'], ['-'], ['3'], ['!'], ['-'], ['.', '5']] 8 =
        some (operator .minus) := by
  have cut : Lexeme.split "(-2)--3!-.5".toList =
      [['('], ['-'], ['2'], [')'], ['-'], ['-'], ['3'], ['!'], ['-'], ['.', '5']] := by decide
  rcases scan_by_place cut with ⟨-, -, counted, operators⟩
  exact ⟨cut, counted, operators 7 ['!'] rfl rfl (.mark .factorial)⟩

end Token

end DecimalCalculator
