import DecimalCalculator.Proofs.Evaluation.LeadingOperand
import DecimalCalculator.Proofs.Machine.Calculator

/-!
# Typing a text

A text that is typed on a fresh calculator is displayed as it is, but for zeros in front: a zero
alone stands for an empty display, and is replaced by what is typed next unless that is a point. The
preview is therefore the answer to the text without those zeros.

Mostly this is the answer to the text itself, or a text of the same number: zeros in front of a
numeral change nothing, and a zero in front of an operator is taken by the run where it is missing.
Nothing can be said of a zero that has another use, as the argument of a mark has.

While the text is typed, each text in front of its end is evaluated as well, and a machine may stop
at one of them although it does not stop at the whole.
-/

namespace DecimalCalculator

open Token

/-! ## The display of a typed text -/

/-- What is displayed after a text has been typed on an empty display. -/
def typedDisplay (text : String) : String :=
  match text.toList.dropWhile (· == '0') with
  | [] => emptyDisplay
  | '.' :: rest => String.ofList ('0' :: '.' :: rest)
  | behind => String.ofList behind

theorem typedDisplay_zero_cons (text : List Char) :
    typedDisplay (String.ofList ('0' :: text)) = typedDisplay (String.ofList text) := by
  simp only [typedDisplay, String.toList_ofList]
  rfl

theorem typedDisplay_of_head?_ne {text : String} (nonempty : text ≠ "")
    (noZero : text.toList.head? ≠ some '0') (noPoint : text.toList.head? ≠ some '.') :
    typedDisplay text = text := by
  have characters : text.toList ≠ [] := by simpa using nonempty
  rcases List.exists_cons_of_ne_nil characters with ⟨first, rest, same⟩
  rw [same, List.head?_cons, Ne, Option.some.injEq] at noZero noPoint
  have kept : text.toList.dropWhile (· == '0') = first :: rest := by
    simp [same, noZero]
  rw [typedDisplay, kept]
  split
  · contradiction
  next rest isPoint => exact absurd (List.cons.inj isPoint).1 noPoint
  · rw [← same, String.ofList_toList]

theorem typedDisplay_of_point {text : String} {rest : List Char}
    (point : text.toList = '.' :: rest) : typedDisplay text = "0" ++ text := by
  have kept : text.toList.dropWhile (· == '0') = '.' :: rest := by
    rw [point]
    rfl
  rw [typedDisplay, kept]
  apply String.toList_inj.1
  simp [point]

namespace Calculator

variable {calculator : Calculator}

/-- A character is appended to a display that is not empty. -/
theorem display_press_character (notIdle : calculator.display ≠ emptyDisplay) (typed : Char) :
    (calculator.press (.character typed)).display = calculator.display ++ typed.toString := by
  by_cases point : typed = '.'
  · rw [point]
    rfl
  · rw [press, apply_character point, insert, if_neg notIdle]
    rfl

/-- A character other than a point replaces an empty display. -/
theorem display_press_first (idle : calculator.display = emptyDisplay) {typed : Char}
    (notPoint : typed ≠ '.') :
    (calculator.press (.character typed)).display = typed.toString := by
  rw [press, apply_character notPoint, insert, if_pos idle]
  rfl

theorem append_ne_emptyDisplay {front : String} (nonempty : front ≠ "") (typed : Char) :
    front ++ typed.toString ≠ emptyDisplay := by
  intro same
  have characters : front.toList ++ [typed] = [] ++ ['0'] := by
    simpa [emptyDisplay] using congrArg String.toList same
  have empty := (List.append_inj_left' characters rfl)
  exact nonempty (by simpa using empty)

theorem display_pressAll_characters (displayed : calculator.display ≠ "")
    (notIdle : calculator.display ≠ emptyDisplay) (typed : List Char) :
    (calculator.pressAll (typed.map .character)).display =
      calculator.display ++ String.ofList typed := by
  induction typed generalizing calculator with
  | nil => simp [pressAll]
  | cons first rest ih =>
      have pressed := display_press_character notIdle first
      have stillDisplayed : (calculator.press (.character first)).display ≠ "" := by
        rw [pressed]
        exact append_text_ne_empty (by simp) calculator.display
      have stillNotIdle : (calculator.press (.character first)).display ≠ emptyDisplay := by
        rw [pressed]
        exact append_ne_emptyDisplay displayed first
      have step : calculator.pressAll ((first :: rest).map .character) =
          (calculator.press (.character first)).pressAll (rest.map .character) := rfl
      rw [step, ih stillDisplayed stillNotIdle, pressed, String.append_assoc]
      apply String.toList_inj.1
      simp

theorem display_pressAll_typed (idle : calculator.display = emptyDisplay) (typed : List Char) :
    (calculator.pressAll (typed.map .character)).display = typedDisplay (String.ofList typed) := by
  induction typed generalizing calculator with
  | nil => exact idle
  | cons first rest ih =>
      have step : calculator.pressAll ((first :: rest).map .character) =
          (calculator.press (.character first)).pressAll (rest.map .character) := rfl
      rw [step]
      by_cases zero : first = '0'
      · rw [zero, typedDisplay_zero_cons]
        apply ih
        exact display_press_first idle (by decide)
      · by_cases point : first = '.'
        · have pressed : (calculator.press (.character first)).display = "0." := by
            rw [point]
            exact congrArg (· ++ ".") idle
          rw [display_pressAll_characters (by simp [pressed]) (by simp [pressed, emptyDisplay]),
            pressed, point, typedDisplay_of_point String.toList_ofList]
          apply String.toList_inj.1
          simp
        · have pressed := display_press_first idle point
          have notIdle : first.toString ≠ emptyDisplay := by
            intro same
            have characters : [first] = ['0'] := by
              simpa [emptyDisplay] using congrArg String.toList same
            exact zero (List.cons.inj characters).1
          rw [display_pressAll_characters (by simp [pressed]) (by rwa [pressed]), pressed,
            typedDisplay_of_head?_ne (by simp) (by simp [zero]) (by simp [point])]
          apply String.toList_inj.1
          simp

end Calculator

/-! ## Texts that are typed without a change of their number -/

/-- Whether a text denotes the same number where zeros in front are left out: there are none, a
numeral stands behind them, or the run of the text takes the zero. Without zeros in front, the text
must not begin with a point and a sign, because a zero is put in front of a point. -/
inductive TypedAlike (text : String) : Prop
  | noZero (noZero : text.toList.head? ≠ some '0') (noSign : ¬HasPointedSign text.toList)
  | numeral {first : Char} {rest : List Char} (zero : text.toList.head? = some '0')
      (behind : text.toList.dropWhile (· == '0') = first :: rest)
      (begins : first.isDigit ∨ first = '.')
  | zeroTaken (notLiteral : Decimal.parse? text = none)
      (leaves : LeavesOutZero text (typedDisplay text))

variable {context : Context} {text : String}

/-- A text is its zeros in front and what stands behind them. -/
theorem exists_zeros_append (text : List Char) :
    ∃ count, text = List.replicate count '0' ++ text.dropWhile (· == '0') := by
  refine ⟨(text.takeWhile (· == '0')).length, ?_⟩
  have zeros : text.takeWhile (· == '0') =
      List.replicate (text.takeWhile (· == '0')).length '0' := by
    apply List.eq_replicate_of_mem
    intro character member
    simpa using List.mem_takeWhile_imp member
  rw [← zeros, List.takeWhile_append_dropWhile]

theorem exists_zeros_append_typedDisplay {first : Char} {rest : List Char}
    (zero : text.toList.head? = some '0')
    (behind : text.toList.dropWhile (· == '0') = first :: rest)
    (begins : first.isDigit ∨ first = '.') :
    BeginsNumeral (typedDisplay text).toList ∧
      ∃ count, text = String.ofList (List.replicate count '0') ++ typedDisplay text := by
  rcases exists_zeros_append text.toList with ⟨count, split⟩
  rw [behind] at split
  by_cases point : first = '.'
  · subst point
    have displayed : typedDisplay text = String.ofList ('0' :: '.' :: rest) := by
      simp only [typedDisplay, behind]
    rw [displayed, String.toList_ofList]
    refine ⟨.digit rfl _, count - 1, ?_⟩
    cases count with
    | zero =>
        rw [split] at zero
        cases zero
    | succ count =>
        apply String.toList_inj.1
        rw [split, List.replicate_succ']
        simp
  · have displayed : typedDisplay text = String.ofList (first :: rest) := by
      rw [typedDisplay, behind]
      split
      · contradiction
      next same => exact absurd (List.cons.inj same).1 point
      · rfl
    rw [displayed, String.toList_ofList]
    refine ⟨.digit (begins.resolve_right point) rest, count, ?_⟩
    apply String.toList_inj.1
    simpa using split

/-- The zeros in front of such a text can be left out. -/
theorem TypedAlike.answeredAlike (alike : TypedAlike text) (nonempty : text ≠ "")
    (answered : answer context text ≠ errorMarker) :
    AnsweredAlike context (typedDisplay text) text := by
  cases alike with
  | noZero noZero noSign =>
      by_cases point : text.toList.head? = some '.'
      · rcases List.head?_eq_some_iff.1 point with ⟨rest, written⟩
        rw [typedDisplay_of_point written]
        exact (answeredAlike_zero_append (beginsNumeral_of_answer answered written noSign)).symm
      · rw [typedDisplay_of_head?_ne nonempty noZero point]
        exact .of_eq rfl
  | numeral zero behind begins =>
      rcases exists_zeros_append_typedDisplay zero behind begins with ⟨beginsNumeral, count, split⟩
      have alike : AnsweredAlike context (typedDisplay text)
          (String.ofList (List.replicate count '0') ++ typedDisplay text) :=
        answeredAlike_zeros_append beginsNumeral count
      rwa [← split] at alike
  | zeroTaken notLiteral leaves => exact leaves.answeredAlike notLiteral answered

theorem typedDisplay_ne_emptyDisplay (notZeros : ∃ character ∈ text.toList, character ≠ '0') :
    typedDisplay text ≠ emptyDisplay := by
  rcases notZeros with ⟨character, member, notZero⟩
  rw [typedDisplay]
  split
  next allZeros =>
    have zero := List.dropWhile_eq_nil_iff.1 allZeros character member
    exact absurd (by simpa using zero) notZero
  next => simp [emptyDisplay]
  next =>
    intro same
    have first := List.head?_dropWhile_not (· == '0') text.toList
    have characters : text.toList.dropWhile (· == '0') = ['0'] := by
      simpa [emptyDisplay] using congrArg String.toList same
    rw [characters] at first
    cases first

namespace Calculator

variable {calculator : Calculator}

theorem ofText_of_accepted (accepted : ∀ character ∈ text.toList, (Key.ofChar? character).isSome) :
    Key.ofText text = text.toList.map .character := by
  have own : ∀ character ∈ text.toList, Key.ofChar? character = some (.character character) := by
    intro character member
    have isSome := accepted character member
    rw [Key.ofChar?] at isSome ⊢
    split at isSome
    next typed => exact if_pos typed
    next => cases isSome
  rw [Key.ofText, List.filterMap_congr own]
  exact congrFun List.filterMap_eq_map text.toList

/-- The preview of a text that has been typed on a fresh calculator, against the answer to the
text. -/
theorem preview_ofText
    (accepted : ∀ character ∈ text.toList, (Key.ofChar? character).isSome)
    (notZeros : ∃ character ∈ text.toList, character ≠ '0')
    (answered : answer context text ≠ errorMarker)
    (typed : ofKeys context false (Key.ofText text) = calculator) :
    calculator.display = typedDisplay text ∧
      calculator.preview.text = answer context (typedDisplay text) ∧
      (TypedAlike text →
        calculator.preview.text ≠ errorMarker ∧
          ∃ number other, Decimal.parse? calculator.preview.text = some number ∧
            Decimal.parse? (answer context text) = some other ∧ number.SameNumber other) ∧
      (Decimal.parse? text = none → LeavesOutMinus text (typedDisplay text) →
        calculator.preview.text ≠ errorMarker →
          ∃ number other, Decimal.parse? calculator.preview.text = some number ∧
            Decimal.parse? (answer context text) = some other ∧ number.SameNumber other) := by
  subst typed
  have display : (ofKeys context false (Key.ofText text)).display = typedDisplay text := by
    rw [ofKeys, ofText_of_accepted accepted, display_pressAll_typed rfl, String.ofList_toList]
  rcases inStep_ofKeys context false (Key.ofText text) with ⟨displayed, previewed⟩
  rw [context_ofKeys, display] at previewed
  rw [display] at displayed
  have preview : (ofKeys context false (Key.ofText text)).preview.text =
      answer context (typedDisplay text) := by
    rw [previewed]
    exact Preview.text_ofDisplay displayed (typedDisplay_ne_emptyDisplay notZeros)
  rw [preview]
  refine ⟨display, rfl, ?_, ?_⟩
  · intro alike
    have nonempty : text ≠ "" := by
      rintro rfl
      simp at notZeros
    have answeredAlike := alike.answeredAlike nonempty answered
    exact ⟨answeredAlike.ne_errorMarker answered, answeredAlike.exists_number answered⟩
  · intro notLiteral leaves previewAnswered
    exact (leaves.answeredAlike notLiteral answered previewAnswered).exists_number answered

end Calculator

namespace Machine

variable {calculator : Calculator}

/-- A preview with a text tells that the machine answers the display by this text. -/
theorem answer_of_previewed {display : String} {preview : Preview}
    (notIdle : isIdle display = false) (previewed : Machine.preview context display = .ok preview) :
    answer context display = .ok preview.text := by
  rw [preview_of_not_isIdle notIdle] at previewed
  rcases map_eq_ok.1 previewed with ⟨result, evaluated, rfl⟩
  rw [answer, evaluated, Preview.text_ofEvaluation]
  rfl

/-- A text that is typed on a fresh calculator, character by character and not zeros alone, is
displayed without zeros in front, one being kept or put in front of a point. If the machine does not
stop on the way, the preview is its answer to the display. It denotes the number of the answer to
the text itself where the text is without zeros in front and has no sign right behind a leading
point, where a numeral stands behind the zeros, and where the run of the text takes the zero. Where
a number is multiplied and divided before it is subtracted from the zero, it does unless the preview
is the error marker. -/
theorem preview_of_typed {shown : String}
    (accepted : ∀ character ∈ text.toList, (Key.ofChar? character).isSome)
    (notZeros : ∃ character ∈ text.toList, character ≠ '0')
    (answered : answer context text = .ok shown) (succeeded : shown ≠ errorMarker)
    (typed : ofKeys context false (Key.ofText text) = .ok calculator) :
    calculator.display = typedDisplay text ∧
      answer context (typedDisplay text) = .ok calculator.preview.text ∧
      (TypedAlike text →
        calculator.preview.text ≠ errorMarker ∧
          ∃ number other, Decimal.parse? calculator.preview.text = some number ∧
            Decimal.parse? shown = some other ∧ number.SameNumber other) ∧
      (Decimal.parse? text = none → LeavesOutMinus text (typedDisplay text) →
        calculator.preview.text ≠ errorMarker →
          ∃ number other, Decimal.parse? calculator.preview.text = some number ∧
            Decimal.parse? shown = some other ∧ number.SameNumber other) := by
  have same := ofKeys_eq_ok typed
  rcases answer_eq_ok_iff.1 answered with ⟨-, rfl⟩
  rcases Calculator.preview_ofText accepted notZeros succeeded same with
    ⟨display, -, alike, leaves⟩
  refine ⟨display, ?_, alike, leaves⟩
  have keys : Key.ofText text ≠ [] := by
    rcases notZeros with ⟨character, member, -⟩
    rw [Calculator.ofText_of_accepted accepted]
    exact List.ne_nil_of_mem (List.mem_map_of_mem member)
  have previewed := preview_of_pressAll keys typed
  have inStep := Calculator.inStep_ofKeys context false (Key.ofText text)
  have kept := Calculator.context_ofKeys context false (Key.ofText text)
  rw [same] at inStep kept
  rw [kept, display] at previewed
  have displayed := inStep.displayed
  rw [display] at displayed
  exact answer_of_previewed
    (Preview.isIdle_eq_false displayed (typedDisplay_ne_emptyDisplay notZeros)) previewed

/-- A subtracted group takes the zero in front of it. A subtracted number takes it as well, and is
negative without it; the product behind it is the opposite one then. -/
theorem preview_of_typed_difference :
    (∃ calculator, ofKeys Context.default false (Key.ofText "00-(3-1)x2") = .ok calculator ∧
      calculator.display = "-(3-1)x2" ∧
      ∃ number other, Decimal.parse? calculator.preview.text = some number ∧
        Decimal.parse? "-4" = some other ∧ number.SameNumber other) ∧
      ∃ calculator, ofKeys Context.default false (Key.ofText "0-5x2") = .ok calculator ∧
        calculator.display = "-5x2" ∧
        ∃ number other, Decimal.parse? calculator.preview.text = some number ∧
          Decimal.parse? "-10" = some other ∧ number.SameNumber other := by
  have alike : TypedAlike "00-(3-1)x2" := by
    have difference : Expression.Written .sum
        (.binary .minus (.literal ⟨3, 0⟩) (.literal ⟨1, 0⟩))
        [number ⟨3, 0⟩, operator .minus, number ⟨1, 0⟩] :=
      .binary .minus (.loosened (.literal _) (by decide)) (.loosened (.literal _) (by decide))
    have product : Expression.Written .product
        (.binary .cross (.group (.binary .minus (.literal ⟨3, 0⟩) (.literal ⟨1, 0⟩)))
          (.literal ⟨2, 0⟩))
        [openParen, number ⟨3, 0⟩, operator .minus, number ⟨1, 0⟩, closeParen, operator .cross,
          number ⟨2, 0⟩] :=
      .binary .cross (.loosened (.group difference) (by decide))
        (.loosened (.literal _) (by decide))
    have written := Expression.Written.binary .minus
      (.loosened (.literal Decimal.zero) (by decide)) product
    exact .zeroTaken (by decide) (.of_written written (by decide) (by decide))
  have leaves : LeavesOutMinus "0-5x2" (typedDisplay "0-5x2") := by
    refine @LeavesOutMinus.intro _ _ ⟨5, 0⟩ [.number ⟨2, 0⟩, .operator .cross] [] (by decide)
      (by decide) ?_ (.nil 0)
    exact .above (by decide) (.operator (.inl rfl) .nil)
  have groupAccepted : "00-(3-1)x2".toList.all fun character => (Key.ofChar? character).isSome := by
    decide
  have productAccepted : "0-5x2".toList.all fun character => (Key.ofChar? character).isSome := by
    decide
  have groupAnswered : answer Context.default "00-(3-1)x2" = .ok "-4" := by decide +kernel
  have productAnswered : answer Context.default "0-5x2" = .ok "-10" := by decide +kernel
  have groupTypes : (ofKeys Context.default false (Key.ofText "00-(3-1)x2")).isOk := by
    decide +kernel
  have productTypes : ((ofKeys Context.default false (Key.ofText "0-5x2")).map
      (·.preview.text != errorMarker)) = .ok true := by
    decide +kernel
  rcases exists_eq_ok groupTypes with ⟨group, groupTyped⟩
  rcases map_eq_ok.1 productTypes with ⟨product, productTyped, productShown⟩
  have ofGroup := preview_of_typed (List.all_eq_true.1 groupAccepted) ⟨'-', by decide, by decide⟩
    groupAnswered (by decide) groupTyped
  have ofProduct := preview_of_typed (List.all_eq_true.1 productAccepted)
    ⟨'-', by decide, by decide⟩ productAnswered (by decide) productTyped
  exact ⟨⟨group, groupTyped, ofGroup.1, (ofGroup.2.2.1 alike).2⟩, product, productTyped,
    ofProduct.1, ofProduct.2.2.2 (by decide) leaves (by simpa using productShown)⟩

/-- A zero that is the argument of a factorial is missed, and so is one from which a power is
subtracted. A point with a sign behind it is displayed behind a zero, and is no literal then. -/
theorem preview_of_typed_ne :
    (∀ character ∈ "0!".toList, (Key.ofChar? character).isSome) ∧
      (∃ character ∈ "0!".toList, character ≠ '0') ∧
      answer Context.default "0!" = .ok "1" ∧
      (ofKeys Context.default false (Key.ofText "0!")).map (·.preview.text) = .ok errorMarker ∧
      answer Context.default "0-5^2" = .ok "-25" ∧
      (ofKeys Context.default false (Key.ofText "0-5^2")).map (·.preview.text) = .ok "25" ∧
      (answer Context.default ".-5").map Decimal.parse? = .ok (some ⟨-5, 2⟩) ∧
      (ofKeys Context.default false (Key.ofText ".-5")).map (·.preview.text) = .ok "-5" := by
  have accepted : "0!".toList.all fun character => (Key.ofChar? character).isSome := by decide
  refine ⟨List.all_eq_true.1 accepted, ⟨'!', by decide, by decide⟩, ?_⟩
  decide +kernel

end Machine

end DecimalCalculator
