import DecimalCalculator.Proofs.ReversePolish.Conservation

/-!
# Groups and closing parentheses without a partner

Tokens in parentheses are brought into order by themselves, whatever stands around them and whatever
they are, as long as their own parentheses match. Nothing that waits in front of a group goes out
while the tokens of the group arrive, and its closing parenthesis lets out all of them that still
wait. What stands around the group is ordered as if there were a single number.

The argument follows the tokens that wait. An open parenthesis hides all that waits in front of it,
until it is closed: behind it, every token does what it would do if nothing else waited.

A closing parenthesis without a partner finds no open parenthesis, and lets out all that waits. It
parts the tokens in front of it from those behind it, so it can be left out only where nothing in
front of it has to wait for what follows.
-/

namespace DecimalCalculator.ReversePolish

open Token

/-! ## Tokens one after the other -/

/-- What goes out while tokens arrive. -/
def releasedBy (waiting : List Token) : List Token → List Token
  | [] => []
  | token :: rest => (advance waiting token).1 ++ releasedBy (advance waiting token).2 rest

/-- What waits behind tokens. -/
def waitingBehind (waiting tokens : List Token) : List Token :=
  tokens.foldl (fun waiting token => (advance waiting token).2) waiting

variable {waiting front inside back below tokens : List Token} {token : Token}

theorem order_append (waiting tokens rest : List Token) :
    order waiting (tokens ++ rest) =
      releasedBy waiting tokens ++ order (waitingBehind waiting tokens) rest := by
  induction tokens generalizing waiting with
  | nil => rfl
  | cons token tokens ih =>
      simp only [List.cons_append, order_cons, ih, releasedBy, List.append_assoc]
      rfl

theorem ofTokens_eq (tokens : List Token) :
    ofTokens tokens = releasedBy [] tokens ++ waitingBehind [] tokens := by
  simpa [order, ofTokens] using order_append [] tokens []

theorem count_openParen_advance (waiting : List Token) (token : Token) :
    (advance waiting token).2.count openParen = opensAfter (waiting.count openParen) token := by
  have arrives := arrives_advance waiting token
  have counted := arrives.perm.count_eq openParen
  simpa [List.count_eq_zero.2 arrives.none_open, count_openParen_keepAfter] using counted

theorem count_openParen_waitingBehind (waiting tokens : List Token) :
    (waitingBehind waiting tokens).count openParen = leftOpen (waiting.count openParen) tokens := by
  induction tokens generalizing waiting with
  | nil => rfl
  | cons token tokens ih =>
      simpa [waitingBehind, leftOpen, count_openParen_advance] using ih (advance waiting token).2

theorem not_isOpenParen_of_not_mem (none_open : openParen ∉ waiting) :
    ∀ token ∈ waiting, !token.isOpenParen := by
  intro token member
  cases token <;> first | rfl | exact absurd member none_open

/-- Numbers and marks never wait. -/
theorem isImmediate_of_mem_waitingBehind (allWait : ∀ other ∈ waiting, isImmediate other = false)
    (tokens : List Token) : ∀ other ∈ waitingBehind waiting tokens, isImmediate other = false := by
  induction tokens generalizing waiting with
  | nil => exact allWait
  | cons token tokens ih =>
      apply ih
      by_cases immediate : isImmediate token
      · cases token <;> first | exact allWait | cases immediate
      · have moved := isImmediate_of_mem_advance allWait (Bool.of_not_eq_true immediate)
        exact (List.forall_mem_append.1 moved).2

/-! ## Behind an open parenthesis -/

theorem releaseFunction_append_openParen (waiting below : List Token) :
    releaseFunction (waiting ++ openParen :: below) =
      ((releaseFunction waiting).1, (releaseFunction waiting).2 ++ openParen :: below) := by
  cases waiting with
  | nil => rfl
  | cons token waiting => cases token <;> rfl

theorem yieldsTo_append_openParen (token : Token) (waiting below : List Token) :
    (waiting ++ openParen :: below).takeWhile (yieldsTo token) =
        waiting.takeWhile (yieldsTo token) ∧
      (waiting ++ openParen :: below).dropWhile (yieldsTo token) =
        waiting.dropWhile (yieldsTo token) ++ openParen :: below := by
  induction waiting with
  | nil => simp [yieldsTo, isOpenParen]
  | cons first waiting ih =>
      simp only [List.cons_append, List.takeWhile_cons, List.dropWhile_cons]
      split
      · simp [ih]
      · simp

/-- Behind an open parenthesis a token does what it does by itself, unless it closes this very
parenthesis. -/
theorem advance_append_openParen (within : token = closeParen → openParen ∈ waiting)
    (below : List Token) :
    advance (waiting ++ openParen :: below) token =
      ((advance waiting token).1, (advance waiting token).2 ++ openParen :: below) := by
  cases token with
  | number _ | mark _ | function _ | openParen => rfl
  | operator _ | unknown _ => simp [advance, yieldsTo_append_openParen]
  | closeParen =>
      rcases exists_latest_openParen waiting with ⟨latest, none_open, rfl | ⟨earlier, rfl⟩⟩
      · exact absurd (within rfl) (openParen_not_mem none_open)
      · simp only [advance, List.append_assoc, List.cons_append, close_append none_open,
          releaseFunction_append_openParen]

/-- Tokens that do not close an open parenthesis are ordered behind it as they are ordered by
themselves. The other parentheses that may be open are those among the tokens that wait. -/
theorem order_behind_openParen {depth : ℕ}
    (within : depth? (waiting.count openParen) tokens = some depth) (below : List Token) :
    releasedBy (waiting ++ openParen :: below) tokens = releasedBy waiting tokens ∧
      waitingBehind (waiting ++ openParen :: below) tokens =
        waitingBehind waiting tokens ++ openParen :: below := by
  induction tokens generalizing waiting with
  | nil => exact ⟨rfl, rfl⟩
  | cons token tokens ih =>
      simp only [depth?] at within
      split at within
      · cases within
      next notLast =>
        have open_of_close : token = closeParen → openParen ∈ waiting := by
          intro closes
          apply List.count_pos_iff.1
          apply Nat.pos_of_ne_zero
          intro none_open
          exact notLast ⟨none_open, closes⟩
        have advanced := advance_append_openParen open_of_close below
        rw [← count_openParen_advance] at within
        rcases ih within with ⟨released, remaining⟩
        simp only [waitingBehind] at remaining
        simp [releasedBy, waitingBehind, advanced, released, remaining]

/-! ## Groups -/

theorem openParen_not_mem_of_balanced (balanced : Balanced inside) :
    openParen ∉ waitingBehind [] inside := by
  apply List.count_eq_zero.1
  rw [count_openParen_waitingBehind]
  exact leftOpen_of_depth? balanced

/-- A group goes out as its tokens would by themselves, and then the function in front of it. -/
theorem order_group (balanced : Balanced inside) (waiting back : List Token) :
    order waiting (inParentheses inside ++ back) =
      ofTokens inside ++ (releaseFunction waiting).1 ++ order (releaseFunction waiting).2 back := by
  have none_open := not_isOpenParen_of_not_mem (openParen_not_mem_of_balanced balanced)
  rcases @order_behind_openParen [] inside 0 balanced waiting with ⟨released, remaining⟩
  rw [List.nil_append] at released remaining
  calc
    order waiting (inParentheses inside ++ back) =
        order (openParen :: waiting) (inside ++ closeParen :: back) := by
      simp [inParentheses, order]
    _ = releasedBy [] inside ++
        order (waitingBehind [] inside ++ openParen :: waiting) (closeParen :: back) := by
      rw [order_append, released, remaining]
    _ = ofTokens inside ++ (releaseFunction waiting).1 ++
        order (releaseFunction waiting).2 back := by
      simp [order, close_append none_open, ofTokens_eq]

/-- The order of the tokens around a group does not depend on the tokens in it. -/
theorem exists_ofTokens_group (front back : List Token) :
    ∃ before behind, ∀ inside, Balanced inside →
      ofTokens (front ++ inParentheses inside ++ back) = before ++ ofTokens inside ++ behind := by
  let waiting := waitingBehind [] front
  refine ⟨releasedBy [] front,
    (releaseFunction waiting).1 ++ order (releaseFunction waiting).2 back, ?_⟩
  intro inside balanced
  have ordered := order_append [] front (inParentheses inside ++ back)
  rw [order_group balanced] at ordered
  simpa [ofTokens] using ordered

/-- A token, or other tokens in the place of a number. -/
def insteadOf (value : Decimal) (others : List Token) (token : Token) : List Token :=
  if token = number value then others else [token]

theorem flatMap_insteadOf_of_not_mem {value : Decimal} (absent : number value ∉ tokens)
    (others : List Token) : tokens.flatMap (insteadOf value others) = tokens := by
  induction tokens with
  | nil => rfl
  | cons token tokens ih =>
      simp only [List.mem_cons, not_or] at absent
      simp [insteadOf, Ne.symm absent.1, ih absent.2]

theorem not_mem_of_ofTokens_group {before behind : List Token} {value : Decimal}
    (ordered : ∀ inside, Balanced inside →
      ofTokens (front ++ inParentheses inside ++ back) = before ++ ofTokens inside ++ behind)
    (notInFront : number value ∉ front) (notInBack : number value ∉ back) :
    number value ∉ before ∧ number value ∉ behind := by
  have empty : ofTokens (front ++ inParentheses [] ++ back) = before ++ behind := by
    simpa [ofTokens, order] using ordered [] rfl
  have absent : number value ∉ ofTokens (front ++ inParentheses [] ++ back) := by
    intro member
    have inside := (mem_of_mem_ofTokens member).1
    simp [inParentheses, notInFront, notInBack] at inside
  rw [empty, List.mem_append, not_or] at absent
  exact absent

/-- Groups are ordered by themselves. The order of tokens with a group among them is the order of
the same tokens with a number in its place, where the number is then replaced by the order of the
group. So parentheses around all tokens, or around a group, change nothing. -/
theorem ofTokens_group (balanced : Balanced inside) :
    (∀ (front back : List Token) (value : Decimal),
        number value ∉ front → number value ∉ back →
          ofTokens (front ++ inParentheses inside ++ back) =
            (ofTokens (front ++ inParentheses [number value] ++ back)).flatMap
              (insteadOf value (ofTokens inside))) ∧
      ofTokens (inParentheses inside) = ofTokens inside ∧
      ∀ front back : List Token,
        ofTokens (front ++ inParentheses (inParentheses inside) ++ back) =
          ofTokens (front ++ inParentheses inside ++ back) := by
  have alone : ofTokens (inParentheses inside) = ofTokens inside := by
    simpa [ofTokens, order, releaseFunction] using order_group balanced [] []
  refine ⟨?_, alone, ?_⟩
  · intro front back value notInFront notInBack
    rcases exists_ofTokens_group front back with ⟨before, behind, ordered⟩
    rcases not_mem_of_ofTokens_group ordered notInFront notInBack with ⟨notBefore, notBehind⟩
    have single : ofTokens [number value] = [number value] := rfl
    rw [ordered inside balanced, ordered [number value] rfl, single]
    simp [flatMap_insteadOf_of_not_mem notBefore, flatMap_insteadOf_of_not_mem notBehind, insteadOf]
  · intro front back
    rcases exists_ofTokens_group front back with ⟨before, behind, ordered⟩
    rw [ordered inside balanced, ordered (inParentheses inside) balanced.inParentheses, alone]

/-- A group without a number in it, between a function and a closing parenthesis without a
partner. -/
theorem ofTokens_group_unknown :
    Balanced [operator .minus, openParen, unknown "pi", closeParen, function .sin] ∧
      ofTokens ([number ⟨2, 0⟩, operator .caret, function .sqrt] ++
          inParentheses [operator .minus, openParen, unknown "pi", closeParen, function .sin] ++
          [closeParen, operator .cross, number ⟨4, 0⟩]) =
        [number ⟨2, 0⟩, unknown "pi", function .sin, operator .minus, function .sqrt,
          operator .caret, number ⟨4, 0⟩, operator .cross] ∧
      ofTokens (inParentheses [operator .minus, openParen, unknown "pi", closeParen,
          function .sin]) = [unknown "pi", function .sin, operator .minus] := by
  have balanced :
      Balanced [operator .minus, openParen, unknown "pi", closeParen, function .sin] := rfl
  rcases ofTokens_group balanced with ⟨replaced, alone, -⟩
  refine ⟨balanced, ?_, alone⟩
  exact replaced _ _ ⟨7, 0⟩ (by simp) (by simp)

/-! ## Closing parentheses without a partner -/

/-- Whether all that waits goes out in front of tokens, before any of these does: nothing is left of
the tokens, or the first of them lets out all that waits. -/
inductive LetsOutAll (waiting : List Token) : List Token → Prop
  | nil : LetsOutAll waiting []
  | closeParen (rest : List Token) : LetsOutAll waiting (closeParen :: rest)
  | operator {infixed : Operator} (yields : ∀ token ∈ waiting, yieldsTo (operator infixed) token)
      (rest : List Token) : LetsOutAll waiting (operator infixed :: rest)
  | unknown (text : String) (rest : List Token) : LetsOutAll waiting (unknown text :: rest)

theorem order_nil_closeParen (rest : List Token) :
    order [] (closeParen :: rest) = order [] rest :=
  rfl

/-- A token that lets out all that waits begins anew. -/
theorem order_of_yieldsTo (yields : ∀ other ∈ waiting, yieldsTo token other)
    (ordered : ∀ waiting, order waiting (token :: back) = waiting.takeWhile (yieldsTo token) ++
      order (token :: waiting.dropWhile (yieldsTo token)) back) :
    order waiting (token :: back) = waiting ++ order [] (token :: back) := by
  simp [ordered, List.takeWhile_eq_self_iff.2 yields, List.dropWhile_eq_nil_iff.2 yields]

theorem LetsOutAll.order_eq (letsOut : LetsOutAll waiting back) (none_open : openParen ∉ waiting) :
    order waiting back = waiting ++ order [] back := by
  have closed := not_isOpenParen_of_not_mem none_open
  cases letsOut with
  | nil => simp [order]
  | closeParen rest =>
      rw [order_nil_closeParen, order, close_of_no_openParen closed]
  | operator yields rest => exact order_of_yieldsTo yields fun waiting => rfl
  | unknown text rest =>
      apply order_of_yieldsTo _ fun waiting => rfl
      intro other member
      simpa [yieldsTo, rank] using closed other member

theorem openParen_not_mem_of_noneToClose (noneToClose : NoneToClose front) :
    openParen ∉ waitingBehind [] front := by
  apply List.count_eq_zero.1
  rw [count_openParen_waitingBehind]
  exact noneToClose.leftOpen_eq_zero

/-- A closing parenthesis without a partner parts the tokens around it: those in front of it and
those behind it are ordered apart. So it can be left out whatever stands behind it only if nothing
waits in front of it; otherwise what stands behind it has to let out at once all that waits. -/
theorem ofTokens_unmatched_closeParen (noneToClose : NoneToClose front) :
    (∀ back, ofTokens (front ++ closeParen :: back) = ofTokens front ++ ofTokens back) ∧
      ((∀ back, ofTokens (front ++ closeParen :: back) = ofTokens (front ++ back)) ↔
        waitingBehind [] front = []) ∧
      ∀ back, LetsOutAll (waitingBehind [] front) back →
        ofTokens (front ++ closeParen :: back) = ofTokens (front ++ back) := by
  have none_open := openParen_not_mem_of_noneToClose noneToClose
  have joined (back : List Token) : ofTokens (front ++ back) =
      releasedBy [] front ++ order (waitingBehind [] front) back := order_append [] front back
  have parted (back : List Token) :
      ofTokens (front ++ closeParen :: back) = ofTokens front ++ ofTokens back := by
    rw [joined, (LetsOutAll.closeParen back).order_eq none_open, order_nil_closeParen,
      ofTokens_eq front, List.append_assoc]
    rfl
  have unchanged (back : List Token) (letsOut : LetsOutAll (waitingBehind [] front) back) :
      ofTokens (front ++ closeParen :: back) = ofTokens (front ++ back) := by
    rw [parted, joined, letsOut.order_eq none_open, ofTokens_eq front, List.append_assoc]
    rfl
  refine ⟨parted, ⟨?_, ?_⟩, unchanged⟩
  · intro noEffect
    -- A number would go out before all that waits.
    have number_last := noEffect [number Decimal.zero]
    have immediate := @isImmediate_of_mem_waitingBehind [] (by simp) front
    rw [parted, joined, ofTokens_eq front] at number_last
    cases waits : waitingBehind [] front with
    | nil => rfl
    | cons token waiting =>
        simp [waits, ofTokens, order] at number_last
        simp [waits, number_last.1, isImmediate] at immediate
  · intro nothing back
    rw [parted, joined, ofTokens_eq front, nothing, List.append_nil]
    rfl

/-- Behind a sum, a product is ordered apart from it, and a difference goes on with it. -/
theorem ofTokens_unmatched_closeParen_sum :
    NoneToClose [number ⟨1, 0⟩, operator .plus, number ⟨2, 0⟩] ∧
      waitingBehind [] [number ⟨1, 0⟩, operator .plus, number ⟨2, 0⟩] = [operator .plus] ∧
      ofTokens ([number ⟨1, 0⟩, operator .plus, number ⟨2, 0⟩] ++
          closeParen :: [operator .star, number ⟨3, 0⟩]) =
        [number ⟨1, 0⟩, number ⟨2, 0⟩, operator .plus] ++ [number ⟨3, 0⟩, operator .star] ∧
      ofTokens ([number ⟨1, 0⟩, operator .plus, number ⟨2, 0⟩] ++
          closeParen :: [operator .minus, number ⟨3, 0⟩]) =
        ofTokens ([number ⟨1, 0⟩, operator .plus, number ⟨2, 0⟩] ++
          [operator .minus, number ⟨3, 0⟩]) := by
  have noneToClose : NoneToClose [number ⟨1, 0⟩, operator .plus, number ⟨2, 0⟩] :=
    noneToClose_of_not_mem (by simp)
  have waits :
      waitingBehind [] [number ⟨1, 0⟩, operator .plus, number ⟨2, 0⟩] = [operator .plus] := rfl
  rcases ofTokens_unmatched_closeParen noneToClose with ⟨parted, -, unchanged⟩
  refine ⟨noneToClose, waits, parted _, unchanged _ ?_⟩
  rw [waits]
  exact .operator (by simp [yieldsTo, isOpenParen, rank, Operator.rank]) _

/-- Without the closing parenthesis, the product would belong to the sum. -/
theorem ofTokens_unmatched_closeParen_ne :
    ¬∀ front back : List Token, NoneToClose front →
      ofTokens (front ++ closeParen :: back) = ofTokens (front ++ back) := by
  intro noEffect
  have same := noEffect [number ⟨1, 0⟩, operator .plus, number ⟨2, 0⟩]
    [operator .star, number ⟨3, 0⟩] (noneToClose_of_not_mem (by simp))
  exact absurd same (by decide)

end DecimalCalculator.ReversePolish
