import DecimalCalculator.Proofs.Token.Layout

/-!
# Segmentations of a text

A text can be divided into lexemes in many ways, since a run may be cut anywhere. In a segmentation
every character has one place: it belongs to a lexeme, or it is skipped and stands in front of a
lexeme or behind the last one. A segmentation is maximal if a skipped character stands between any
two runs of one kind that are neighbours, so that none of its runs is only a part of a longer one.

Each text has a maximal segmentation, and its lexemes are the ones that are found. They do not
depend on the direction in which a text is read: every maximal segmentation has the same lexemes.
-/

namespace DecimalCalculator.Lexeme

/-! ## Segments -/

/-- A lexeme of a text with the skipped characters right in front of it. -/
structure Segment where
  gap : List Char
  lexeme : Lexeme
  kind : LexemeKind
  skipped : Skipped gap
  hasKind : lexeme.HasKind kind

/-- Whether two neighbours are kept apart: there is a skipped character between runs of one kind. -/
def Segment.Apart (previous next : Segment) : Prop :=
  previous.kind = next.kind → next.kind ≠ .symbol → next.gap ≠ []

instance (previous next : Segment) : Decidable (previous.Apart next) :=
  inferInstanceAs (Decidable (_ = _ → _ ≠ _ → _ ≠ _))

def Segment.characters (segment : Segment) : List Char :=
  segment.gap ++ segment.lexeme

/-- A division of a text into lexemes and skipped characters. -/
structure Segmentation (text : List Char) where
  segments : List Segment
  /-- What is left over behind the last lexeme. -/
  rest : List Char
  skipped : Skipped rest
  whole : segments.flatMap Segment.characters ++ rest = text

namespace Segmentation

variable {text : List Char}

def lexemes (segmentation : Segmentation text) : List Lexeme :=
  segmentation.segments.map Segment.lexeme

def IsMaximal (segmentation : Segmentation text) : Prop :=
  segmentation.segments.IsChain Segment.Apart

instance (segmentation : Segmentation text) : Decidable segmentation.IsMaximal :=
  inferInstanceAs (Decidable (segmentation.segments.IsChain Segment.Apart))

/-- A run that is cut in two is no maximal segmentation of its text. -/
example : ¬@IsMaximal "12".toList ⟨[⟨[], ['1'], .numeral, by decide, .singleton rfl⟩,
    ⟨[], ['2'], .numeral, by decide, .singleton rfl⟩], [], by decide, rfl⟩ := by
  decide

end Segmentation

/-! ## Cuts -/

section Cut

variable {text rest : List Char} {lexemes : List Lexeme} {segments : List Segment}

/-- The gap in front of a lexeme is told by the text. -/
theorem Segment.takeWhile_characters (segment : Segment) (text : List Char) :
    (segment.characters ++ text).takeWhile (fun character => (kindOf character).isNone) =
      segment.gap := by
  rcases List.exists_cons_of_ne_nil segment.hasKind.nonempty with ⟨first, tail, same⟩
  have known := segment.hasKind.uniform first (by simp [same])
  rw [characters, List.append_assoc, List.takeWhile_append_of_pos]
  · simp [same, known]
  · intro character member
    simp [segment.skipped character member]

/-- A text that begins with a segment is cut behind the segment, if the run ends there. -/
theorem Segment.cut_iff (segment : Segment) :
    Cut (segment.lexeme :: lexemes) (segment.characters ++ text) ↔
      (segment.kind ≠ .symbol → text.head?.bind kindOf ≠ some segment.kind) ∧
        Cut lexemes text := by
  constructor
  · intro cut
    generalize whole : segment.characters ++ text = all at cut
    cases cut with
    | @cons gap behind lexeme kind lexemes skipped hasKind ended cut =>
        have sameGap : segment.gap = gap := by
          have found := segment.takeWhile_characters text
          rw [whole] at found
          exact found.symm.trans
            (Segment.takeWhile_characters ⟨gap, segment.lexeme, kind, skipped, hasKind⟩ behind)
        have sameText : text = behind := by
          rw [characters, sameGap] at whole
          exact List.append_cancel_left whole
        rw [sameText, segment.hasKind.unique hasKind]
        exact ⟨ended, cut⟩
  · rintro ⟨ended, cut⟩
    exact .cons segment.skipped segment.hasKind ended cut

/-- A text that is divided into segments begins with its first lexeme, if nothing is skipped in
front of it. -/
theorem head?_segments (skipped : Skipped rest) {kind : LexemeKind} :
    (segments.flatMap Segment.characters ++ rest).head?.bind kindOf = some kind ↔
      ∃ next ∈ segments.head?, next.gap = [] ∧ next.kind = kind := by
  cases segments with
  | nil => simp [skipped.head?_eq_none]
  | cons next segments =>
      rw [List.flatMap_cons, Segment.characters, List.append_assoc, List.append_assoc,
        next.skipped.head?_append, next.hasKind.head?_append]
      simp

/-- Segments are a cut into runs that are as long as possible exactly if they are kept apart. -/
theorem cut_segments_iff (skipped : Skipped rest) (segments : List Segment) :
    Cut (segments.map Segment.lexeme) (segments.flatMap Segment.characters ++ rest) ↔
      segments.IsChain Segment.Apart := by
  induction segments with
  | nil => simpa using Cut.nil skipped
  | cons segment segments ih =>
      rw [List.map_cons, List.flatMap_cons, List.append_assoc, segment.cut_iff, ih,
        List.isChain_cons]
      apply and_congr_left
      intro _
      -- The run ends where the next segment does not go on with it.
      simp only [ne_eq, head?_segments skipped]
      constructor
      · intro ended next isNext sameKind notSymbol noGap
        exact ended (sameKind ▸ notSymbol) ⟨next, isNext, noGap, sameKind.symm⟩
      · rintro apart notSymbol ⟨next, isNext, noGap, sameKind⟩
        exact apart next isNext sameKind.symm (sameKind ▸ notSymbol) noGap

theorem Cut.exists_segmentation (cut : Cut lexemes text) :
    ∃ segmentation : Segmentation text, segmentation.lexemes = lexemes := by
  induction cut with
  | @nil gap skipped => exact ⟨⟨[], gap, skipped, rfl⟩, rfl⟩
  | @cons gap text lexeme kind lexemes skipped hasKind ended cut ih =>
      rcases ih with ⟨behind, rfl⟩
      refine ⟨⟨⟨gap, lexeme, kind, skipped, hasKind⟩ :: behind.segments, behind.rest,
        behind.skipped, ?_⟩, rfl⟩
      rw [List.flatMap_cons, List.append_assoc, behind.whole]
      rfl

theorem cut_iff_eq_split : Cut lexemes text ↔ lexemes = split text := by
  constructor
  · intro cut
    exact (split_of_cut cut).symm
  · rintro rfl
    exact cut_split text

/-- The lexemes of a segmentation are those that are found exactly if it is maximal. -/
theorem Segmentation.lexemes_eq_split_iff (segmentation : Segmentation text) :
    segmentation.lexemes = split text ↔ segmentation.IsMaximal := by
  rw [← cut_iff_eq_split, IsMaximal, ← cut_segments_iff segmentation.skipped, segmentation.whole]
  rfl

end Cut

/-- The lexemes that are found in a text are the text less the characters that belong to no kind of
lexeme. Each of them is a run of one kind or a single symbol. The text has a segmentation with these
lexemes, and a segmentation has them exactly if it is maximal. -/
theorem split_covers (text : String) :
    (∀ character kind, kindOf character = some kind ↔ kind.Admits character) ∧
      (split text.toList).flatten =
        text.toList.filter (fun character => (kindOf character).isSome) ∧
      (∀ lexeme ∈ split text.toList, ∃ kind, lexeme.HasKind kind) ∧
      (∃ segmentation : Segmentation text.toList, segmentation.lexemes = split text.toList) ∧
      ∀ segmentation : Segmentation text.toList,
        segmentation.lexemes = split text.toList ↔ segmentation.IsMaximal := by
  have cut := cut_split text.toList
  refine ⟨?_, flatten_split text.toList, cut.exists_hasKind, cut.exists_segmentation, ?_⟩
  · intro character kind
    exact kindOf_eq_some_iff
  · intro segmentation
    exact segmentation.lexemes_eq_split_iff

/-- Two numerals and two words in a row, with a skipped character between them. -/
theorem split_covers_neighbours :
    ∃ segmentation : Segmentation "1.2 .5sinXcosx-π".toList,
      segmentation.lexemes =
          [['1', '.', '2'], ['.', '5'], ['s', 'i', 'n'], ['c', 'o', 's'], ['x'], ['-']] ∧
        segmentation.IsMaximal := by
  rcases split_covers "1.2 .5sinXcosx-π" with ⟨-, -, -, ⟨segmentation, found⟩, maximal⟩
  exact ⟨segmentation, found.trans (by decide), (maximal segmentation).1 found⟩

end DecimalCalculator.Lexeme
