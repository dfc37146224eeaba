import DecimalCalculator.Proofs.Expression.Order
import DecimalCalculator.Proofs.Token.Matching
import Mathlib.Data.List.TakeWhile

/-!
# What reverse Polish order keeps

Whatever the tokens are, well formed or not, bringing them into reverse Polish order loses none
of them and adds none, matched parentheses and closing ones apart. Numbers and marks even stay in
the order in which they came in.

All follows from what one token does to the tokens that wait: some go out, the others wait on, and
together they are the tokens that are kept of those that waited before and the new one. Opening
parentheses never go out while tokens arrive, so a closing one always finds the nearest of those
that have no partner yet among the tokens that wait.
-/

namespace DecimalCalculator.ReversePolish

open Token

/-! ## One token at a time -/

theorem releaseFunction_append (waiting : List Token) :
    (releaseFunction waiting).1 ++ (releaseFunction waiting).2 = waiting := by
  cases waiting with
  | nil => rfl
  | cons token waiting => cases token <;> rfl

theorem openParen_not_mem_releaseFunction (waiting : List Token) :
    openParen ∉ (releaseFunction waiting).1 := by
  cases waiting with
  | nil => simp [releaseFunction]
  | cons token waiting => cases token <;> simp [releaseFunction]

theorem close_of_no_openParen {waiting : List Token}
    (none_open : ∀ token ∈ waiting, !token.isOpenParen) : close waiting = (waiting, []) := by
  simp only [close, List.takeWhile_eq_self_iff.2 none_open,
    List.dropWhile_eq_nil_iff.2 none_open]
  simp [releaseFunction]

theorem openParen_not_mem {tokens : List Token} (none_open : ∀ token ∈ tokens, !token.isOpenParen) :
    openParen ∉ tokens := by
  intro member
  exact absurd (none_open openParen member) (by decide)

/-- Tokens wait in front of the latest open parenthesis and behind it, if one is open. -/
theorem exists_latest_openParen (waiting : List Token) :
    ∃ inside, (∀ token ∈ inside, !token.isOpenParen) ∧
      (waiting = inside ∨ ∃ below, waiting = inside ++ openParen :: below) := by
  induction waiting with
  | nil => exact ⟨[], by simp, .inl rfl⟩
  | cons token waiting ih =>
      by_cases opens : token = openParen
      · exact ⟨[], by simp, .inr ⟨waiting, by simp [opens]⟩⟩
      · rcases ih with ⟨inside, none_open, split⟩
        have first : !token.isOpenParen := by
          cases token <;> simp_all [isOpenParen]
        refine ⟨token :: inside, List.forall_mem_cons.2 ⟨first, none_open⟩, ?_⟩
        rcases split with rfl | ⟨below, rfl⟩
        · exact .inl rfl
        · exact .inr ⟨below, rfl⟩

/-- What one token lets out, and what waits behind it. -/
def advance (waiting : List Token) (token : Token) : List Token × List Token :=
  match token with
  | .number _ | .mark _ => ([token], waiting)
  | .function _ | .openParen => ([], token :: waiting)
  | .closeParen => close waiting
  | .operator _ | .unknown _ =>
    (waiting.takeWhile (yieldsTo token), token :: waiting.dropWhile (yieldsTo token))

/-- What is known of the tokens that one token lets out, and of those that wait behind it. -/
structure Arrives (waiting : List Token) (token : Token) (released remaining : List Token) :
    Prop where
  order_cons : ∀ rest, order waiting (token :: rest) = released ++ order remaining rest
  perm : (released ++ remaining).Perm (keepAfter waiting token)
  none_open : openParen ∉ released

theorem arrives_closeParen (waiting : List Token) :
    Arrives waiting closeParen (close waiting).1 (close waiting).2 := by
  rcases exists_latest_openParen waiting with ⟨inside, none_open, rfl | ⟨below, rfl⟩⟩
  · rw [close_of_no_openParen none_open]
    refine ⟨fun rest => by rw [order, close_of_no_openParen none_open], ?_,
      openParen_not_mem none_open⟩
    rw [List.append_nil, keepAfter, List.erase_of_not_mem (openParen_not_mem none_open)]
  · rw [close_append none_open]
    refine ⟨fun rest => by rw [order, close_append none_open], ?_, ?_⟩
    · rw [List.append_assoc, releaseFunction_append, keepAfter,
        List.erase_append_right _ (openParen_not_mem none_open), List.erase_cons_head]
    · exact List.not_mem_append (openParen_not_mem none_open)
        (openParen_not_mem_releaseFunction below)

/-- A token that waits behind the tokens it lets out. -/
theorem arrives_of_yieldsTo {waiting : List Token} {token : Token}
    (ordered : ∀ rest, order waiting (token :: rest) = waiting.takeWhile (yieldsTo token) ++
      order (token :: waiting.dropWhile (yieldsTo token)) rest)
    (notClose : token ≠ closeParen) :
    Arrives waiting token (waiting.takeWhile (yieldsTo token))
      (token :: waiting.dropWhile (yieldsTo token)) := by
  refine ⟨ordered, ?_, ?_⟩
  · calc
      (waiting.takeWhile (yieldsTo token) ++ token :: waiting.dropWhile (yieldsTo token)).Perm
          (token :: (waiting.takeWhile (yieldsTo token) ++ waiting.dropWhile (yieldsTo token))) :=
        List.perm_middle
      _ = keepAfter waiting token := by
        rw [List.takeWhile_append_dropWhile, keepAfter_of_ne notClose]
  · intro member
    have yields := List.all_eq_true.1 List.all_takeWhile openParen member
    simp [yieldsTo, isOpenParen] at yields

theorem arrives_advance (waiting : List Token) (token : Token) :
    Arrives waiting token (advance waiting token).1 (advance waiting token).2 := by
  cases token with
  | number _ | mark _ => exact ⟨fun rest => rfl, .refl _, by simp [advance]⟩
  | function _ | openParen => exact ⟨fun rest => rfl, .refl _, by simp [advance]⟩
  | closeParen => exact arrives_closeParen waiting
  | operator infixed => exact arrives_of_yieldsTo (fun rest => rfl) (by simp)
  | unknown text => exact arrives_of_yieldsTo (fun rest => rfl) (by simp)

theorem order_cons (waiting : List Token) (token : Token) (rest : List Token) :
    order waiting (token :: rest) =
      (advance waiting token).1 ++ order (advance waiting token).2 rest :=
  (arrives_advance waiting token).order_cons rest

/-! ## All tokens -/

/-- What goes out is what waited and what came in, as far as it is kept. -/
theorem order_perm (waiting tokens : List Token) :
    (order waiting tokens).Perm (tokens.foldl keepAfter waiting) := by
  induction tokens generalizing waiting with
  | nil => exact .refl _
  | cons token tokens ih =>
      have arrives := arrives_advance waiting token
      rw [order_cons]
      generalize advance waiting token = advanced at arrives ⊢
      rcases advanced with ⟨released, remaining⟩
      calc
        (released ++ order remaining tokens).Perm (released ++ tokens.foldl keepAfter remaining) :=
          (ih remaining).append_left released
        List.Perm _ (tokens.foldl keepAfter (released ++ remaining)) :=
          (foldl_keepAfter_append arrives.none_open remaining tokens).symm
        List.Perm _ (tokens.foldl keepAfter (keepAfter waiting token)) :=
          foldl_keepAfter_perm arrives.perm tokens

/-- What goes out has come in, and is no closing parenthesis. -/
theorem mem_of_mem_ofTokens {token : Token} {tokens : List Token}
    (member : token ∈ ofTokens tokens) : token ∈ tokens ∧ token ≠ closeParen := by
  have kept := (order_perm [] tokens).mem_iff.1 member
  exact (mem_foldl_keepAfter kept).resolve_left List.not_mem_nil

/-- Every token that is no parenthesis goes out as often as it came in. -/
theorem count_order {token : Token} (notOpen : token ≠ openParen) (notClose : token ≠ closeParen)
    (waiting tokens : List Token) :
    (order waiting tokens).count token = waiting.count token + tokens.count token := by
  rw [(order_perm waiting tokens).count_eq, count_foldl_keepAfter notOpen notClose]

/-- The opening parentheses that go out are as many as are left open. -/
theorem count_openParen_order (waiting tokens : List Token) :
    (order waiting tokens).count openParen = leftOpen (waiting.count openParen) tokens := by
  rw [(order_perm waiting tokens).count_eq, count_openParen_foldl_keepAfter]

theorem mem_ofTokens {token : Token} (notOpen : token ≠ openParen) (notClose : token ≠ closeParen)
    (tokens : List Token) : token ∈ ofTokens tokens ↔ token ∈ tokens := by
  have same := count_order notOpen notClose [] tokens
  rw [List.count_nil, Nat.zero_add] at same
  rw [← List.count_pos_iff, ← List.count_pos_iff, ofTokens, same]

theorem openParen_mem_ofTokens {tokens : List Token} (unclosed : HasUnclosed tokens) :
    openParen ∈ ofTokens tokens := by
  have counted := count_openParen_order [] tokens
  rw [← List.count_pos_iff, ofTokens, counted]
  exact unclosed.leftOpen_pos

/-! ## The whole order -/

/-- Whether a token goes out at once, without waiting. -/
def isImmediate : Token → Bool
  | .number _ | .mark _ => true
  | _ => false

/-- While no number and no mark waits, none is let out by another token, and none comes to wait. -/
theorem isImmediate_of_mem_advance {waiting : List Token} {token : Token}
    (allWait : ∀ other ∈ waiting, isImmediate other = false) (waits : isImmediate token = false) :
    ∀ other ∈ (advance waiting token).1 ++ (advance waiting token).2,
      isImmediate other = false := by
  intro other member
  rcases mem_keepAfter ((arrives_advance waiting token).perm.mem_iff.1 member) with
    before | ⟨rfl, -⟩
  · exact allWait other before
  · exact waits

/-- Numbers and marks go out in the order in which they come in, if none of them waits. -/
theorem filter_isImmediate_order {waiting : List Token}
    (allWait : ∀ token ∈ waiting, isImmediate token = false) (tokens : List Token) :
    (order waiting tokens).filter isImmediate = tokens.filter isImmediate := by
  induction tokens generalizing waiting with
  | nil => simpa [order] using allWait
  | cons token tokens ih =>
      by_cases immediate : isImmediate token
      · have goesOut : order waiting (token :: tokens) = token :: order waiting tokens := by
          cases token <;> first | rfl | cases immediate
        rw [goesOut, List.filter_cons_of_pos immediate, List.filter_cons_of_pos immediate,
          ih allWait]
      · have moved := isImmediate_of_mem_advance allWait (Bool.of_not_eq_true immediate)
        rw [List.forall_mem_append] at moved
        have noneReleased : (advance waiting token).1.filter isImmediate = [] :=
          List.filter_eq_nil_iff.2 fun other member => by simp [moved.1 other member]
        rw [order_cons, List.filter_append, noneReleased,
          List.nil_append, List.filter_cons_of_neg immediate, ih moved.2]

/-- Reverse Polish order is made of exactly the tokens that came in, less the closing parentheses
and the opening ones that have a partner. No closing parenthesis goes out, and as many opening ones
as are left open; numbers and marks keep the order in which they came in. -/
theorem ofTokens_perm (tokens : List Token) :
    (ofTokens tokens).Perm (withoutMatched tokens) ∧
      closeParen ∉ ofTokens tokens ∧
      (ofTokens tokens).count openParen = leftOpen 0 tokens ∧
      (ofTokens tokens).filter isImmediate = tokens.filter isImmediate := by
  refine ⟨(order_perm [] tokens).trans (List.reverse_perm _).symm, ?_, ?_, ?_⟩
  · intro member
    exact (mem_of_mem_ofTokens member).2 rfl
  · exact count_openParen_order [] tokens
  · exact filter_isImmediate_order (fun token member => absurd member List.not_mem_nil) tokens

end DecimalCalculator.ReversePolish
