import DecimalCalculator.Token.Lexeme
import Mathlib.Data.List.Chain

/-!
# Lexemes laid out in a text

The rule by which a text falls into lexemes: skipped characters may stand anywhere between
lexemes, and a run of digits or of letters ends only where the text does not go on with a
character of its kind. A cut of a text that keeps this rule is the one that is found.

Lexemes that are written one after the other, with any skipped characters between them, are
found again as they were when no two runs of the same kind are neighbours.
-/

namespace DecimalCalculator

/-! ## Characters -/

/-- The characters that the lexemes of a kind are made of. -/
def LexemeKind.Admits (kind : LexemeKind) (character : Char) : Prop :=
  match kind with
  | .numeral => '0' ≤ character ∧ character ≤ '9' ∨ character = '.'
  | .word =>
    ('A' ≤ character ∧ character ≤ 'Z' ∨ 'a' ≤ character ∧ character ≤ 'z') ∧
      character ≠ 'x' ∧ character ≠ 'X'
  | .symbol => character ∈ ['^', '*', 'x', '/', '+', '-', '(', ')', '!', '%']

namespace Lexeme

section Character

variable {character : Char}

theorem isDigit_iff : character.isDigit ↔ '0' ≤ character ∧ character ≤ '9' := by
  have range : character.isDigit = ('0' ≤ character && character ≤ '9') := rfl
  simp [range]

theorem isAlpha_iff :
    character.isAlpha ↔
      'A' ≤ character ∧ character ≤ 'Z' ∨ 'a' ≤ character ∧ character ≤ 'z' := by
  have ranges : character.isAlpha =
      (decide ('A' ≤ character ∧ character ≤ 'Z') || ('a' ≤ character && character ≤ 'z')) := rfl
  simp [ranges]

/-- No letter is a digit or a point. -/
theorem not_numeral_of_isAlpha (letter : character.isAlpha) :
    ¬(character.isDigit || character == '.') := by
  have above : 'A' ≤ character := by
    rcases isAlpha_iff.1 letter with upper | lower
    · exact upper.1
    · exact Char.le_trans (by decide) lower.1
  rw [Bool.or_eq_true, isDigit_iff, beq_iff_eq]
  rintro (⟨-, below⟩ | rfl)
  · exact absurd (Char.le_trans above below) (by decide)
  · exact absurd above (by decide)

theorem kindOf_eq_some_iff {kind : LexemeKind} :
    kindOf character = some kind ↔ kind.Admits character := by
  constructor
  · intro known
    rw [kindOf] at known
    split at known
    next numeral =>
      cases known
      simpa [LexemeKind.Admits, isDigit_iff] using numeral
    split at known
    next word =>
      cases known
      simpa [LexemeKind.Admits, isAlpha_iff, and_assoc] using word
    split at known
    next symbol =>
      cases known
      exact List.contains_iff_mem.1 symbol
    next => cases known
  · intro admits
    cases kind with
    | numeral =>
        have numeral : character.isDigit || character == '.' := by
          simpa [LexemeKind.Admits, isDigit_iff] using admits
        rw [kindOf, if_pos numeral]
    | word =>
        have word : character.isAlpha && character != 'x' && character != 'X' := by
          simpa [LexemeKind.Admits, isAlpha_iff, and_assoc] using admits
        have letter : character.isAlpha := isAlpha_iff.2 admits.1
        rw [kindOf, if_neg (not_numeral_of_isAlpha letter), if_pos word]
    | symbol =>
        have known : symbols.all fun symbol => kindOf symbol = some .symbol := by decide
        exact of_decide_eq_true (List.all_eq_true.1 known character admits)

end Character

/-! ## Writing lexemes -/

def Skipped (text : List Char) : Prop :=
  ∀ character ∈ text, kindOf character = none

instance (text : List Char) : Decidable (Skipped text) :=
  List.decidableBAll (fun character => kindOf character = none) text

/-- Whether a lexeme is of a kind: a run of characters of that kind, or a single symbol. -/
structure HasKind (lexeme : Lexeme) (kind : LexemeKind) : Prop where
  nonempty : lexeme ≠ []
  uniform : ∀ character ∈ lexeme, kindOf character = some kind
  single : kind = .symbol → lexeme.length = 1

/-- Whether two neighbours stay apart: they are no runs of one kind. -/
def Separated (previous next : Lexeme) : Prop :=
  ∀ kind, previous.HasKind kind → next.HasKind kind → kind = .symbol

/-- The ways to write lexemes one after the other, with skipped characters between them. -/
inductive LaidOut : List Lexeme → List Char → Prop
  | nil {gap : List Char} (skipped : Skipped gap) : LaidOut [] gap
  | cons {gap text : List Char} {lexeme : Lexeme} {lexemes : List Lexeme}
      (skipped : Skipped gap) (laidOut : LaidOut lexemes text) :
      LaidOut (lexeme :: lexemes) (gap ++ lexeme ++ text)

/-- The cuts of a text into lexemes where every run is as long as the text allows. -/
inductive Cut : List Lexeme → List Char → Prop
  | nil {gap : List Char} (skipped : Skipped gap) : Cut [] gap
  | cons {gap text : List Char} {lexeme : Lexeme} {kind : LexemeKind} {lexemes : List Lexeme}
      (skipped : Skipped gap) (hasKind : lexeme.HasKind kind)
      (ended : kind ≠ .symbol → text.head?.bind kindOf ≠ some kind) (cut : Cut lexemes text) :
      Cut (lexeme :: lexemes) (gap ++ lexeme ++ text)

theorem HasKind.eq_of_mem {lexeme : Lexeme} {kind other : LexemeKind} {character : Char}
    (hasKind : lexeme.HasKind kind) (member : character ∈ lexeme)
    (known : kindOf character = some other) : kind = other := by
  have same := hasKind.uniform character member
  rw [known] at same
  exact (Option.some.inj same).symm

theorem HasKind.eq_of_head? {lexeme : Lexeme} {kind other : LexemeKind}
    (hasKind : lexeme.HasKind kind) (first : lexeme.head?.bind kindOf = some other) :
    kind = other := by
  rcases Option.bind_eq_some_iff.1 first with ⟨character, isFirst, known⟩
  exact hasKind.eq_of_mem (List.mem_of_mem_head? isFirst) known

/-- A text that begins with a lexeme begins with a character of its kind. -/
theorem HasKind.head?_append {lexeme : Lexeme} {kind : LexemeKind} (hasKind : lexeme.HasKind kind)
    (text : List Char) : (lexeme ++ text).head?.bind kindOf = some kind := by
  rcases List.exists_cons_of_ne_nil hasKind.nonempty with ⟨first, rest, rfl⟩
  exact hasKind.uniform first List.mem_cons_self

theorem Skipped.head?_eq_none {gap : List Char} (skipped : Skipped gap) :
    gap.head?.bind kindOf = none := by
  cases gap with
  | nil => rfl
  | cons character gap => exact skipped character List.mem_cons_self

/-- A text begins with a skipped character if anything is skipped in front of it. -/
theorem Skipped.head?_append {gap : List Char} (skipped : Skipped gap) (text : List Char)
    {kind : LexemeKind} :
    (gap ++ text).head?.bind kindOf = some kind ↔
      gap = [] ∧ text.head?.bind kindOf = some kind := by
  cases gap with
  | nil => simp
  | cons character gap => simp [skipped character List.mem_cons_self]

theorem HasKind.unique {lexeme : Lexeme} {kind other : LexemeKind} (hasKind : lexeme.HasKind kind)
    (hasOther : lexeme.HasKind other) : kind = other := by
  rcases List.exists_mem_of_ne_nil lexeme hasKind.nonempty with ⟨character, member⟩
  exact hasKind.eq_of_mem member (hasOther.uniform character member)

/-- A symbol stands in no lexeme but its own. -/
theorem HasKind.eq_singleton {lexeme : Lexeme} {kind : LexemeKind} {character : Char}
    (hasKind : lexeme.HasKind kind) (member : character ∈ lexeme)
    (symbol : kindOf character = some .symbol) : lexeme = [character] := by
  rcases List.length_eq_one_iff.1 (hasKind.single (hasKind.eq_of_mem member symbol)) with
    ⟨only, rfl⟩
  rw [List.mem_singleton.1 member]

theorem HasKind.singleton {character : Char} {kind : LexemeKind}
    (known : kindOf character = some kind) : HasKind [character] kind :=
  ⟨List.cons_ne_nil character [], List.forall_mem_singleton.2 known, fun _ => rfl⟩

theorem HasKind.symbol {character : Char} (symbol : kindOf character = some .symbol) :
    HasKind [character] .symbol :=
  .singleton symbol

theorem hasKind_of_opensOperand {lexeme : Lexeme} (opens : lexeme.opensOperand) :
    lexeme.HasKind .symbol := by
  simp only [opensOperand, List.any_cons, List.any_nil, Bool.or_false, Bool.or_eq_true,
    beq_iff_eq] at opens
  rcases opens with rfl | rfl | rfl | rfl | rfl | rfl | rfl <;> exact .symbol (by decide)

theorem LaidOut.lexeme (lexeme : Lexeme) : LaidOut [lexeme] lexeme := by
  have laidOut : LaidOut [lexeme] ([] ++ lexeme ++ []) :=
    .cons (by simp [Skipped]) (.nil (by simp [Skipped]))
  simpa using laidOut

theorem LaidOut.behind {gap text : List Char} {lexemes : List Lexeme} (skipped : Skipped gap)
    (laidOut : LaidOut lexemes text) : LaidOut lexemes (gap ++ text) := by
  cases laidOut with
  | nil skippedText => exact .nil (List.forall_mem_append.2 ⟨skipped, skippedText⟩)
  | @cons first text lexeme lexemes skippedFirst laidOut =>
      simpa using LaidOut.cons (List.forall_mem_append.2 ⟨skipped, skippedFirst⟩) laidOut

theorem LaidOut.append {front back : List Char} {frontLexemes backLexemes : List Lexeme}
    (frontLaidOut : LaidOut frontLexemes front) (backLaidOut : LaidOut backLexemes back) :
    LaidOut (frontLexemes ++ backLexemes) (front ++ back) := by
  induction frontLaidOut with
  | nil skipped => exact backLaidOut.behind skipped
  | cons skipped laidOut ih => simpa using LaidOut.cons skipped ih

/-! ## Finding the lexemes of a text -/

theorem split_skipped {gap : List Char} (skipped : Skipped gap) (text : List Char) :
    split (gap ++ text) = split text := by
  induction gap with
  | nil => rfl
  | cons character gap ih =>
      rw [List.cons_append, split, skipped character List.mem_cons_self]
      exact ih fun other member => skipped other (List.mem_cons_of_mem character member)

theorem split_symbol {character : Char} (symbol : kindOf character = some .symbol)
    (text : List Char) : split (character :: text) = [character] :: split text := by
  rw [split, symbol]

theorem split_run {kind : LexemeKind} (notSymbol : kind ≠ .symbol) {run text : List Char}
    (nonempty : run ≠ []) (uniform : ∀ character ∈ run, kindOf character = some kind)
    (ended : text.head?.bind kindOf ≠ some kind) : split (run ++ text) = run :: split text := by
  induction run with
  | nil => exact absurd rfl nonempty
  | cons character run ih =>
      have first : kindOf character = some kind := uniform character List.mem_cons_self
      rw [List.cons_append, split, first]
      cases run with
      | nil =>
          rw [List.nil_append]
          cases kind with
          | symbol => exact absurd rfl notSymbol
          | numeral | word => exact if_neg ended
      | cons next run =>
          have second : kindOf next = some kind :=
            uniform next (List.mem_cons_of_mem character List.mem_cons_self)
          have rest := ih (List.cons_ne_nil next run) fun other member =>
            uniform other (List.mem_cons_of_mem character member)
          rw [rest]
          cases kind with
          | symbol => exact absurd rfl notSymbol
          | numeral | word => exact if_pos second

theorem split_cons_run {character : Char} {kind : LexemeKind} (known : kindOf character = some kind)
    (notSymbol : kind ≠ .symbol) (text : List Char) :
    split (character :: text) =
      if text.head?.bind kindOf = some kind then extend character (split text)
      else [character] :: split text := by
  rw [split, known]
  cases kind with
  | symbol => exact absurd rfl notSymbol
  | numeral | word => rfl

theorem split_ne_nil {character : Char} {kind : LexemeKind}
    (known : kindOf character = some kind) (text : List Char) : split (character :: text) ≠ [] := by
  by_cases symbol : kind = .symbol
  · rw [symbol] at known
    simp [split_symbol known]
  · rw [split_cons_run known symbol]
    split
    · cases split text <;> simp [extend]
    · simp

theorem extend_append (character : Char) {lexemes : List Lexeme} (nonempty : lexemes ≠ [])
    (more : List Lexeme) :
    extend character (lexemes ++ more) = extend character lexemes ++ more := by
  cases lexemes with
  | nil => exact absurd rfl nonempty
  | cons lexeme lexemes => rfl

/-- A text can be cut in two between characters that do not belong to one run. -/
theorem split_append {front back : List Char}
    (apart : ∀ kind, front.getLast?.bind kindOf = some kind →
      back.head?.bind kindOf = some kind → kind = .symbol) :
    split (front ++ back) = split front ++ split back := by
  induction front with
  | nil => rfl
  | cons character front ih =>
      have rest : split (front ++ back) = split front ++ split back := by
        apply ih
        intro kind last
        apply apart kind
        cases front with
        | nil => cases last
        | cons next front => simpa using last
      rw [List.cons_append]
      cases known : kindOf character with
      | none => simpa [split, known] using rest
      | some kind =>
          by_cases symbol : kind = .symbol
          · rw [symbol] at known
            simp [split_symbol known, rest]
          · rw [split_cons_run known symbol, split_cons_run known symbol, rest]
            cases front with
            | nil =>
                -- The run ends here in both texts.
                have ended : back.head?.bind kindOf ≠ some kind := by
                  intro goesOn
                  exact symbol (apart kind known goesOn)
                simp [ended]
            | cons next front =>
                by_cases same : kindOf next = some kind
                · simp [same, extend_append character (split_ne_nil same front)]
                · simp [same]

/-- A cut where every run is as long as possible is the one that is found. -/
theorem split_of_cut {lexemes : List Lexeme} {text : List Char} (cut : Cut lexemes text) :
    split text = lexemes := by
  induction cut with
  | @nil gap skipped =>
      rw [← List.append_nil gap, split_skipped skipped]
      rfl
  | @cons gap text lexeme kind lexemes skipped hasKind ended cut ih =>
      rw [List.append_assoc, split_skipped skipped]
      by_cases symbol : kind = .symbol
      · rcases List.length_eq_one_iff.1 (hasKind.single symbol) with ⟨character, rfl⟩
        have kindOf_character := hasKind.uniform character List.mem_cons_self
        rw [symbol] at kindOf_character
        rw [List.singleton_append, split_symbol kindOf_character, ih]
      · rw [split_run symbol hasKind.nonempty hasKind.uniform (ended symbol), ih]

theorem HasKind.split_eq {lexeme : Lexeme} {kind : LexemeKind} (hasKind : lexeme.HasKind kind) :
    split lexeme = [lexeme] := by
  have cut : Cut [lexeme] ([] ++ lexeme ++ []) :=
    .cons (by simp [Skipped]) hasKind (by simp) (.nil (by simp [Skipped]))
  simpa using split_of_cut cut

/-- A character between characters of other kinds is a lexeme by itself. -/
theorem singleton_mem_split {front back : List Char} {character : Char} {kind : LexemeKind}
    (known : kindOf character = some kind) (before : front.getLast?.bind kindOf ≠ some kind)
    (behind : back.head?.bind kindOf ≠ some kind) :
    [character] ∈ split (front ++ character :: back) := by
  have cutBefore :
      split (front ++ character :: back) = split front ++ split (character :: back) := by
    apply split_append
    intro other last first
    rw [List.head?_cons, Option.bind_some, known] at first
    rw [← first] at last
    exact absurd last before
  have cutBehind : split ([character] ++ back) = split [character] ++ split back := by
    apply split_append
    intro other last first
    rw [List.getLast?_singleton, Option.bind_some, known] at last
    rw [← last] at first
    exact absurd first behind
  rw [List.singleton_append, (HasKind.singleton known).split_eq] at cutBehind
  rw [cutBefore, cutBehind]
  simp

/-! ## The cut of a text -/

theorem Cut.behind {gap text : List Char} {lexemes : List Lexeme} (skipped : Skipped gap)
    (cut : Cut lexemes text) : Cut lexemes (gap ++ text) := by
  cases cut with
  | nil skippedText => exact .nil (List.forall_mem_append.2 ⟨skipped, skippedText⟩)
  | cons skippedFirst hasKind ended cut =>
      simpa using Cut.cons (List.forall_mem_append.2 ⟨skipped, skippedFirst⟩) hasKind ended cut

theorem Cut.single {character : Char} {kind : LexemeKind} {text : List Char}
    {lexemes : List Lexeme} (known : kindOf character = some kind)
    (ended : kind ≠ .symbol → text.head?.bind kindOf ≠ some kind) (cut : Cut lexemes text) :
    Cut ([character] :: lexemes) (character :: text) := by
  have skipped : Skipped [] := by simp [Skipped]
  exact .cons skipped (.singleton known) ended cut

/-- A character of a run goes on with the run behind it. -/
theorem Cut.extend {character : Char} {kind : LexemeKind} {text : List Char}
    {lexemes : List Lexeme} (known : kindOf character = some kind) (notSymbol : kind ≠ .symbol)
    (goesOn : text.head?.bind kindOf = some kind) (cut : Cut lexemes text) :
    Cut (Lexeme.extend character lexemes) (character :: text) := by
  cases cut with
  | nil skipped =>
      rw [skipped.head?_eq_none] at goesOn
      cases goesOn
  | @cons gap text lexeme other lexemes skipped hasKind ended cut =>
      -- No skipped character stands first, so the run behind the character is the first lexeme.
      rw [List.append_assoc, skipped.head?_append, hasKind.head?_append] at goesOn
      rcases goesOn with ⟨rfl, same⟩
      cases same
      have longer : HasKind (character :: lexeme) kind := by
        refine ⟨by simp, List.forall_mem_cons.2 ⟨known, hasKind.uniform⟩, ?_⟩
        intro symbol
        exact absurd symbol notSymbol
      exact .cons skipped longer ended cut

/-- A text is cut into the lexemes that are found in it. -/
theorem cut_split (text : List Char) : Cut (split text) text := by
  induction text with
  | nil => exact .nil (by simp [Skipped])
  | cons character text ih =>
      cases known : kindOf character with
      | none =>
          have skipped : Skipped [character] := by simpa [Skipped] using known
          rw [split, known]
          exact ih.behind skipped
      | some kind =>
          by_cases symbol : kind = .symbol
          · subst symbol
            rw [split_symbol known]
            exact .single known (by simp) ih
          · rw [split_cons_run known symbol]
            split
            next goesOn => exact .extend known symbol goesOn ih
            next ended => exact .single known (fun _ => ended) ih

theorem Cut.exists_hasKind {lexemes : List Lexeme} {text : List Char} (cut : Cut lexemes text) :
    ∀ lexeme ∈ lexemes, ∃ kind, lexeme.HasKind kind := by
  induction cut with
  | nil skipped =>
      intro lexeme member
      cases member
  | cons skipped hasKind ended cut ih => exact List.forall_mem_cons.2 ⟨⟨_, hasKind⟩, ih⟩

/-! ## Separated lexemes -/

/-- A text that begins with a character of a kind begins with its first lexeme. -/
theorem LaidOut.exists_first {lexemes : List Lexeme} {text : List Char} {kind : LexemeKind}
    (laidOut : LaidOut lexemes text) (proper : ∀ lexeme ∈ lexemes, ∃ kind, lexeme.HasKind kind)
    (begins : text.head?.bind kindOf = some kind) :
    ∃ first rest, lexemes = first :: rest ∧ first.HasKind kind := by
  cases laidOut with
  | nil skipped =>
      rw [skipped.head?_eq_none] at begins
      cases begins
  | @cons gap text first rest skipped laidOut =>
      rcases proper first List.mem_cons_self with ⟨other, hasKind⟩
      rw [List.append_assoc, skipped.head?_append, hasKind.head?_append] at begins
      cases begins.2
      exact ⟨first, rest, rfl, hasKind⟩

/-- Lexemes of which no two neighbours are runs of one kind are cut apart again. -/
theorem LaidOut.cut {lexemes : List Lexeme} {text : List Char} (laidOut : LaidOut lexemes text)
    (proper : ∀ lexeme ∈ lexemes, ∃ kind, lexeme.HasKind kind)
    (separated : lexemes.IsChain Separated) : Cut lexemes text := by
  induction laidOut with
  | nil skipped => exact .nil skipped
  | @cons gap text lexeme lexemes skipped laidOut ih =>
      rcases proper lexeme List.mem_cons_self with ⟨kind, hasKind⟩
      have properRest : ∀ next ∈ lexemes, ∃ kind, HasKind next kind :=
        fun next member => proper next (List.mem_cons_of_mem lexeme member)
      refine .cons skipped hasKind ?_ (ih properRest separated.tail)
      intro notSymbol goesOn
      rcases laidOut.exists_first properRest goesOn with ⟨next, rest, rfl, nextHasKind⟩
      -- The next lexeme would go on with the same kind, against the separation.
      exact notSymbol ((List.isChain_cons_cons.1 separated).1 kind hasKind nextHasKind)

end Lexeme

end DecimalCalculator
