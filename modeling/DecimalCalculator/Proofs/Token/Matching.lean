import DecimalCalculator.Token.Basic
import Mathlib.Data.List.Induction

/-!
# Matching parentheses

A closing parenthesis belongs to the nearest opening one in front of it that is still open. The
tokens between the two are balanced: read from the left, they never close a parenthesis that was
opened before them, and they leave none open.

A parenthesis without a partner, opening or closing, is defined by this alone. What a calculation
can find out by counting is how many parentheses are open at the end, when a closing one that has no
partner counts for nothing; an opening parenthesis without a partner is always among these, and
where none is open a closing one has no partner.
-/

namespace DecimalCalculator.Token

/-- The number of open parentheses behind a token. -/
def opensAfter (opened : Nat) : Token → Nat
  | openParen => opened + 1
  | closeParen => opened - 1
  | _ => opened

/-- The number of open parentheses behind tokens, unless one of the tokens closes a parenthesis
where none is open. -/
def depth? : (opened : Nat) → List Token → Option Nat
  | opened, [] => some opened
  | opened, token :: rest =>
    if opened = 0 ∧ token = closeParen then none else depth? (opensAfter opened token) rest

def Balanced (tokens : List Token) : Prop :=
  depth? 0 tokens = some 0

instance (tokens : List Token) : Decidable (Balanced tokens) :=
  inferInstanceAs (Decidable (depth? 0 tokens = some 0))

def inParentheses (tokens : List Token) : List Token :=
  openParen :: (tokens ++ [closeParen])

/-- Whether tokens leave a parenthesis open that was opened right in front of them. -/
def NeverClose (tokens : List Token) : Prop :=
  ∀ inside rest, tokens = inside ++ closeParen :: rest → ¬Balanced inside

/-- Whether an opening parenthesis has no partner. -/
def HasUnclosed (tokens : List Token) : Prop :=
  ∃ front back, tokens = front ++ openParen :: back ∧ NeverClose back

/-- Whether a closing parenthesis right behind tokens has no partner among them. -/
def NoneToClose (tokens : List Token) : Prop :=
  ∀ front inside, tokens = front ++ openParen :: inside → ¬Balanced inside

/-- The number of open parentheses behind tokens, where closing one that is not open counts for
nothing. -/
def leftOpen (opened : Nat) (tokens : List Token) : Nat :=
  tokens.foldl opensAfter opened

/-- The tokens that are kept behind one more token, the latest first. -/
def keepAfter (kept : List Token) : Token → List Token
  | closeParen => kept.erase openParen
  | token => token :: kept

/-- Tokens without their closing parentheses and without the opening ones that have a partner. -/
def withoutMatched (tokens : List Token) : List Token :=
  (tokens.foldl keepAfter []).reverse

theorem lt_leftOpen {tokens : List Token} {opened : Nat}
    (unclosed : ∀ inside rest, tokens = inside ++ closeParen :: rest →
      depth? opened inside ≠ some 0) (below : Nat) :
    below < leftOpen (opened + 1 + below) tokens := by
  induction tokens generalizing opened with
  | nil =>
      simp only [leftOpen, List.foldl_nil]
      omega
  | cons token tokens ih =>
      by_cases closes : opened = 0 ∧ token = closeParen
      · rcases closes with ⟨rfl, rfl⟩
        exact absurd rfl (unclosed [] tokens rfl)
      · have unclosedRest : ∀ inside rest, tokens = inside ++ closeParen :: rest →
            depth? (opensAfter opened token) inside ≠ some 0 := by
          intro inside rest split
          have whole := unclosed (token :: inside) rest (by simp [split])
          simpa [depth?, closes] using whole
        have shifted : opensAfter (opened + 1 + below) token =
            opensAfter opened token + 1 + below := by
          cases token <;> simp [opensAfter] at closes ⊢ <;> omega
        simp only [leftOpen, List.foldl_cons, shifted]
        exact ih unclosedRest

theorem HasUnclosed.leftOpen_pos {tokens : List Token} (unclosed : HasUnclosed tokens) :
    0 < leftOpen 0 tokens := by
  rcases unclosed with ⟨front, back, rfl, neverClose⟩
  have counted : leftOpen 0 (front ++ openParen :: back) =
      leftOpen (0 + 1 + leftOpen 0 front) back := by
    simp only [leftOpen, List.foldl_append, List.foldl_cons, opensAfter, Nat.zero_add,
      Nat.add_comm 1]
  have openFront := @lt_leftOpen back 0 neverClose (leftOpen 0 front)
  omega

/-- A last token that opens nothing gives no partner to the parentheses in front of it. -/
theorem HasUnclosed.of_append_singleton {tokens : List Token} {last : Token}
    (unclosed : HasUnclosed (tokens ++ [last])) (notOpen : last ≠ openParen) :
    HasUnclosed tokens := by
  rcases unclosed with ⟨front, back, split, neverClose⟩
  rcases List.eq_nil_or_concat back with rfl | ⟨back, other, rfl⟩
  · have same := List.append_inj_right' split rfl
    exact absurd (List.singleton_inj.1 same) notOpen
  · rw [List.concat_eq_append] at split neverClose
    rw [← List.cons_append, ← List.append_assoc] at split
    refine ⟨front, back, List.append_inj_left' split rfl, ?_⟩
    intro inside rest closed
    apply neverClose inside (rest ++ [other])
    simp [closed]

/-! ## Open parentheses -/

theorem depth?_append (opened : Nat) (front back : List Token) :
    depth? opened (front ++ back) = (depth? opened front).bind fun depth => depth? depth back := by
  induction front generalizing opened with
  | nil => rfl
  | cons token front ih =>
      simp only [List.cons_append, depth?]
      split
      · rfl
      · exact ih (opensAfter opened token)

/-- What is open in front of tokens has no part in them while they close none of it. -/
theorem depth?_of_depth? {opened depth : Nat} {tokens : List Token}
    (within : depth? opened tokens = some depth) (more : Nat) :
    depth? (opened + more) tokens = some (depth + more) := by
  induction tokens generalizing opened with
  | nil =>
      cases within
      rfl
  | cons token tokens ih =>
      simp only [depth?] at within ⊢
      split at within
      · cases within
      next notLast =>
        have goesOn : ¬(opened + more = 0 ∧ token = closeParen) := by
          rintro ⟨none_open, closes⟩
          exact notLast ⟨by omega, closes⟩
        have shifted : opensAfter (opened + more) token = opensAfter opened token + more := by
          cases token <;> simp [opensAfter] at notLast ⊢ <;> omega
        rw [if_neg goesOn, shifted]
        exact ih within

theorem Balanced.inParentheses {tokens : List Token} (balanced : Balanced tokens) :
    Balanced (inParentheses tokens) := by
  have inside : depth? 1 tokens = some 1 := by simpa using depth?_of_depth? balanced 1
  simp [Balanced, Token.inParentheses, depth?, opensAfter, depth?_append, inside]

/-- While no parenthesis is closed that is not open, both counts agree. -/
theorem leftOpen_of_depth? {opened depth : Nat} {tokens : List Token}
    (within : depth? opened tokens = some depth) : leftOpen opened tokens = depth := by
  induction tokens generalizing opened with
  | nil => exact Option.some.inj within
  | cons token tokens ih =>
      simp only [depth?] at within
      split at within
      · cases within
      · exact ih within

/-- Each of the parentheses that are left open stands somewhere among the tokens: in front of it the
earlier ones of them are open, and behind it the later ones. -/
theorem exists_of_leftOpen {tokens : List Token} {before inner : Nat}
    (counted : leftOpen 0 tokens = before + inner + 1) :
    ∃ front inside, tokens = front ++ openParen :: inside ∧ depth? 0 inside = some inner ∧
      leftOpen 0 front = before := by
  induction tokens using List.reverseRecOn generalizing before inner with
  | nil => cases counted
  | append_singleton tokens token ih =>
      have last : opensAfter (leftOpen 0 tokens) token = before + inner + 1 := by
        simpa [leftOpen] using counted
      -- A token behind an opening parenthesis that was found goes on with what is behind it.
      have extended (deeper : Nat) (earlier : leftOpen 0 tokens = before + deeper + 1)
          (goesOn : depth? deeper [token] = some inner) :
          ∃ front inside, tokens ++ [token] = front ++ openParen :: inside ∧
            depth? 0 inside = some inner ∧ leftOpen 0 front = before := by
        rcases ih earlier with ⟨front, inside, rfl, behind, inFront⟩
        refine ⟨front, inside ++ [token], by simp, ?_, inFront⟩
        simp [depth?_append, behind, goesOn]
      cases token with
      | openParen =>
          simp only [opensAfter] at last
          cases inner with
          | zero => exact ⟨tokens, [], rfl, rfl, by omega⟩
          | succ inner => exact extended inner (by omega) (by simp [depth?, opensAfter])
      | closeParen =>
          simp only [opensAfter] at last
          exact extended (inner + 1) (by omega) (by simp [depth?, opensAfter])
      | _ => exact extended inner last (by simp [depth?, opensAfter])

/-- Behind tokens that have no partner for a closing parenthesis, none is open. -/
theorem NoneToClose.leftOpen_eq_zero {tokens : List Token} (noneToClose : NoneToClose tokens) :
    leftOpen 0 tokens = 0 := by
  cases counted : leftOpen 0 tokens with
  | zero => rfl
  | succ before =>
      rcases @exists_of_leftOpen tokens before 0 counted with
        ⟨front, inside, split, balanced, -⟩
      exact absurd balanced (noneToClose front inside split)

theorem noneToClose_of_not_mem {tokens : List Token} (none_open : openParen ∉ tokens) :
    NoneToClose tokens := by
  rintro front inside rfl
  simp at none_open

/-! ## Tokens that are kept -/

section Kept

variable {token other : Token} {kept front : List Token}

theorem keepAfter_of_ne (notClose : token ≠ closeParen) : keepAfter kept token = token :: kept := by
  cases token <;> first | rfl | exact absurd rfl notClose

theorem mem_keepAfter (member : other ∈ keepAfter kept token) :
    other ∈ kept ∨ other = token ∧ token ≠ closeParen := by
  by_cases closes : token = closeParen
  · subst closes
    exact .inl (List.mem_of_mem_erase member)
  · rw [keepAfter_of_ne closes, List.mem_cons] at member
    exact member.symm.imp_right (⟨·, closes⟩)

theorem count_keepAfter (notOpen : other ≠ openParen) (notClose : other ≠ closeParen) :
    (keepAfter kept token).count other = kept.count other + [token].count other := by
  by_cases closes : token = closeParen
  · subst closes
    simp [keepAfter, List.count_erase_of_ne notOpen, notClose.symm]
  · rw [keepAfter_of_ne closes, List.count_cons, List.count_singleton]

theorem count_openParen_keepAfter :
    (keepAfter kept token).count openParen = opensAfter (kept.count openParen) token := by
  cases token <;> simp [keepAfter, opensAfter]

theorem count_foldl_keepAfter (notOpen : other ≠ openParen) (notClose : other ≠ closeParen)
    (tokens : List Token) :
    (tokens.foldl keepAfter kept).count other = kept.count other + tokens.count other := by
  induction tokens generalizing kept with
  | nil => rfl
  | cons token tokens ih =>
      rw [List.foldl_cons, ih, count_keepAfter notOpen notClose, Nat.add_assoc,
        ← List.count_append, List.singleton_append]

theorem count_openParen_foldl_keepAfter (tokens : List Token) :
    (tokens.foldl keepAfter kept).count openParen = leftOpen (kept.count openParen) tokens := by
  induction tokens generalizing kept with
  | nil => rfl
  | cons token tokens ih =>
      rw [List.foldl_cons, ih, count_openParen_keepAfter]
      rfl

theorem mem_foldl_keepAfter {tokens : List Token} (member : other ∈ tokens.foldl keepAfter kept) :
    other ∈ kept ∨ other ∈ tokens ∧ other ≠ closeParen := by
  induction tokens generalizing kept with
  | nil => exact .inl member
  | cons token tokens ih =>
      rcases ih member with inKept | ⟨inRest, notClose⟩
      · rcases mem_keepAfter inKept with before | ⟨rfl, notClose⟩
        · exact .inl before
        · exact .inr ⟨List.mem_cons_self, notClose⟩
      · exact .inr ⟨List.mem_cons_of_mem token inRest, notClose⟩

theorem foldl_keepAfter_perm {others : List Token} (same : kept.Perm others)
    (tokens : List Token) : (tokens.foldl keepAfter kept).Perm (tokens.foldl keepAfter others) := by
  induction tokens generalizing kept others with
  | nil => exact same
  | cons token tokens ih =>
      apply ih
      cases token with
      | closeParen => exact same.erase openParen
      | _ => exact same.cons _

/-- Tokens in front of which no parenthesis is open stay as they are. -/
theorem foldl_keepAfter_append (none_open : openParen ∉ front) (kept tokens : List Token) :
    (tokens.foldl keepAfter (front ++ kept)).Perm (front ++ tokens.foldl keepAfter kept) := by
  induction tokens generalizing kept with
  | nil => exact .refl _
  | cons token tokens ih =>
      have next : (keepAfter (front ++ kept) token).Perm (front ++ keepAfter kept token) := by
        cases token with
        | closeParen => rw [keepAfter, keepAfter, List.erase_append_right _ none_open]
        | _ => exact List.perm_middle.symm
      exact (foldl_keepAfter_perm next tokens).trans (ih (keepAfter kept token))

end Kept

end DecimalCalculator.Token
