import DecimalCalculator.Proofs.Evaluation.Exact
import DecimalCalculator.Proofs.Evaluation.Negation
import DecimalCalculator.Proofs.ReversePolish.Agreement
import DecimalCalculator.Proofs.Token.Continuation

/-!
# Going on from an answer

The answer to an expression can be written on, and stands then for the expression in parentheses.
Its text is a numeral, behind a minus sign if it is negative. At the beginning of a text the sign is
fused with the numeral, so that the answer is one operand as the group is, and a power or a mark
behind it applies to the whole.

The two texts have the same tokens behind the operand, and those go into the same reverse Polish
order. What differs is the decimal on the stack where the order goes on: the value as it was
computed in one run, and the value as it was read back in the other one. Runs on two decimals of
one number agree.

Where nothing is written behind the operand, an answer that is a number already is not shown anew.

The two decimals are written in different ways, so a machine may stop in one of the runs and not in
the other one. What is said here is said of answers that it gives.
-/

namespace DecimalCalculator

open Token

variable {context : Context} {expression : Expression} {text more : String}

/-! ## Answers as operands -/

/-- The text of a decimal is written as a literal of its number. -/
theorem Decimal.exists_literal_of_render {value : Decimal}
    (rendered : value.render context = .ok text) :
    ∃ literal, (Expression.literal literal).WrittenIn .operand text ∧
      parse? text = some literal ∧ SameNumber value literal := by
  have shows := isPlainTextOf_render rendered
  rcases shows.exists_parse? with ⟨literal, parsed, same⟩
  refine ⟨literal, ?_, parsed, same.symm⟩
  rcases shows.plain.exists_magnitude with ⟨magnitude, numeral, signed⟩
  rcases signed with ⟨written, read⟩ | ⟨written, -, read⟩
  · cases Option.some.inj (parsed.symm.trans read)
    rw [← written] at numeral
    exact .numeral numeral
  · cases Option.some.inj (parsed.symm.trans read)
    have opposite : (Expression.literal magnitude.neg).WrittenIn .operand
        ("-" ++ String.ofList (unsigned text.toList)) :=
      .negative (by rwa [String.toList_ofList])
    have same : "-" ++ String.ofList (unsigned text.toList) = text := by
      apply String.toList_inj.1
      simpa using written.symm
    rwa [same] at opposite

/-- What is known of an answer to an expression: it is written as a literal of the value of the
expression, and is the text of that value unless the expression is a number itself. -/
structure IsAnswerOf (context : Context) (expression : Expression) (text result : String)
    (value literal : Decimal) : Prop where
  computed : expression.value context = .ok value
  same : value.SameNumber literal
  written : (Expression.literal literal).WrittenIn .operand result
  parsed : Decimal.parse? result = some literal
  rendered : Decimal.parse? text = none → value.render context = .ok result

/-- An expression whose text is a number is written by this number alone. -/
theorem tokens_of_literal {tokens : List Token} {lexemes : List Lexeme} {literal : Decimal}
    {level : Level} (written : expression.Written level tokens) (spelled : Spelled tokens lexemes)
    (laidOut : Lexeme.LaidOut lexemes text.toList) (parsed : Decimal.parse? text = some literal) :
    tokens = [number literal] := by
  have ordered := written.isChain_openParen
  have scanned := scan_laidOut ordered spelled laidOut
  rcases scan_of_literal parsed with ⟨-, alone | signed⟩ | ⟨name, member⟩
  · exact scanned.symm.trans alone
  · rw [← scanned, signed] at ordered
    rcases (List.isChain_cons_cons.1 ordered).1 with ⟨-, begins⟩ | ⟨ends, -⟩ | ⟨named, -⟩
    · cases begins
    · cases ends
    · cases named
  · rw [scanned] at member
    exact absurd member (spelled.unknown_not_mem name)

theorem value_of_single {level : Level} {literal : Decimal}
    (written : expression.Written level [number literal]) (context : Context) :
    expression.value context = .ok literal := by
  have ran := expression.runFrom_postOrder context []
  rw [← (ReversePolish.settles_written written (.nil level)).ofTokens_eq] at ran
  cases computed : expression.value context with
  | error cause =>
      rw [computed] at ran
      cases ran
  | ok value =>
      rw [computed] at ran
      cases ran
      rfl

theorem exists_isAnswerOf (written : expression.WrittenIn .sum text)
    (answered : answer context text ≠ errorMarker) :
    ∃ value literal, IsAnswerOf context expression text (answer context text) value literal := by
  rcases written with ⟨tokens, lexemes, grammar, spelled, laidOut⟩
  cases parsed : Decimal.parse? text with
  | some literal =>
      rw [answer_of_literal (by simp [parsed])]
      cases tokens_of_literal grammar spelled laidOut parsed
      exact ⟨literal, literal, value_of_single grammar context, .refl literal,
        ⟨_, lexemes, .literal literal, spelled, laidOut⟩, parsed, by simp [parsed]⟩
  | none =>
      have ran := run_of_answer answered parsed
      rw [expressionTokens_written grammar spelled laidOut, run_of_written grammar] at ran
      rcases bind_eq_ok.1 ran with ⟨value, computed, rendered⟩
      rcases Decimal.exists_literal_of_render rendered with ⟨literal, writtenResult, read, same⟩
      exact ⟨value, literal, computed, same, writtenResult, read, fun _ => rendered⟩

/-! ## Texts that go on -/

/-- The tokens of a text behind an operand. -/
def continuation (more : String) : List Token :=
  ofLexemes false (Lexeme.split more.toList)

/-- Whether a text can go on behind an operand: its tokens begin as an operand is followed, and
end where an operand does. -/
structure Continues (more : String) : Prop where
  follows : ∀ first ∈ (continuation more).head?, first.followsOperand
  ends : ∀ last ∈ (continuation more).getLast?, last.endsOperand
  known : ∀ name, .unknown name ∉ continuation more

theorem Token.CanFollow.followsOperand {previous next : Token} (canFollow : CanFollow previous next)
    (ends : previous.endsOperand) : next.followsOperand := by
  cases previous <;> simp_all [CanFollow, endsOperand, Token.opensOperand, isFunction]

/-- What stands behind an operand in an expression goes on behind it. -/
theorem continues_of_written {level : Level} {whole : Expression}
    (written : expression.WrittenIn .operand text)
    (apart : ∀ kind, text.toList.getLast?.bind Lexeme.kindOf = some kind →
      more.toList.head?.bind Lexeme.kindOf = some kind → kind = .symbol)
    (continued : whole.WrittenIn level (text ++ more)) : Continues more := by
  rcases written with ⟨tokens, lexemes, grammar, spelled, laidOut⟩
  rcases continued with ⟨allTokens, allLexemes, whole, allSpelled, allLaidOut⟩
  have scanned : scan (text ++ more) = tokens ++ continuation more :=
    scan_append grammar spelled laidOut apart
  rw [scan_laidOut whole.isChain_openParen allSpelled allLaidOut] at scanned
  subst scanned
  rcases grammar.exists_append_last with ⟨front, last, rfl, ends⟩
  refine ⟨?_, ?_, ?_⟩
  · intro first isFirst
    rcases List.head?_eq_some_iff.1 isFirst with ⟨rest, behind⟩
    have ordered := whole.isChain_openParen
    rw [behind, List.append_assoc, List.singleton_append, ← List.cons_append,
      List.isChain_append_cons_cons] at ordered
    have canFollow : CanFollow last first := ordered.2.1
    exact canFollow.followsOperand ends
  · intro final isFinal
    rcases whole.exists_append_last with ⟨allFront, allLast, split, allEnds⟩
    have same := congrArg List.getLast? split
    rw [List.getLast?_append, isFinal, Option.some_or, List.getLast?_concat] at same
    cases same
    exact allEnds
  · intro name member
    exact allSpelled.unknown_not_mem name (List.mem_append_right _ member)

theorem continues_of_group {whole : Expression} (written : expression.WrittenIn .sum text)
    (continued : whole.WrittenIn .sum (parenthesized text ++ more)) : Continues more := by
  refine continues_of_written written.group ?_ continued
  intro kind last _
  have closing : (parenthesized text).toList.getLast? = some ')' := by
    rw [parenthesized, String.toList_append]
    exact List.getLast?_concat
  rw [closing] at last
  exact (Option.some.inj last).symm

theorem scan_continued {level : Level} (written : expression.WrittenIn level text)
    (continues : Continues more) :
    ∃ tokens, expression.Written level tokens ∧ (∀ name, .unknown name ∉ tokens) ∧
      scan (text ++ more) = tokens ++ continuation more ∧
      expressionTokens (text ++ more) = tokens ++ continuation more := by
  rcases written with ⟨tokens, lexemes, grammar, spelled, laidOut⟩
  have scanned : scan (text ++ more) = tokens ++ continuation more :=
    scan_append grammar spelled laidOut fun _ _ => eq_symbol_of_followsOperand continues.follows
  refine ⟨tokens, grammar, spelled.unknown_not_mem, scanned, ?_⟩
  rw [expressionTokens, scanned]
  rcases grammar.exists_append_last with ⟨front, last, rfl, ends⟩
  rcases List.eq_nil_or_concat (continuation more) with empty | ⟨behind, final, split⟩
  · rw [empty, List.append_nil]
    exact dropPendingOperator_append_last ends
  · have finalEnds := continues.ends final (by simp [split])
    rw [split, List.concat_eq_append, ← List.append_assoc]
    exact dropPendingOperator_append_last finalEnds

theorem kindOf_ne_none {character : Char}
    (literal : Decimal.IsPlainCharacter character ∨ Decimal.isExponentMark character) :
    Lexeme.kindOf character ≠ none := by
  rcases literal with (digit | rfl | sign) | mark
  · simp [Lexeme.kindOf, digit]
  · decide
  · rcases Decimal.eq_of_isSign sign with rfl | rfl <;> decide
  · rcases Decimal.eq_of_isExponentMark mark with rfl | rfl <;> decide

/-- A text without tokens has none but skipped characters. -/
theorem skipped_of_continuation_eq_nil (empty : continuation more = []) :
    Lexeme.Skipped more.toList := by
  have noLexemes : Lexeme.split more.toList = [] := by
    rw [continuation] at empty
    cases cut : Lexeme.split more.toList with
    | nil => rfl
    | cons lexeme lexemes =>
        rw [cut, ofLexemes_single (.inl rfl)] at empty
        cases empty
  have kept := Lexeme.flatten_split more.toList
  rw [noLexemes, List.flatten_nil, eq_comm, List.filter_eq_nil_iff] at kept
  intro character member
  simpa using kept character member

/-- A number has no tokens behind its first operand. -/
theorem continuation_eq_nil_of_literal {value : Decimal}
    (written : expression.WrittenIn .operand text) (continues : Continues more)
    (parsed : Decimal.parse? (text ++ more) = some value) : continuation more = [] := by
  rcases scan_continued written continues with ⟨tokens, grammar, known, scanned, -⟩
  rcases grammar.exists_append_last with ⟨front, last, rfl, ends⟩
  by_contra nonempty
  have more := List.length_pos_of_ne_nil nonempty
  rcases scan_of_literal parsed with ⟨-, alone | signed⟩ | ⟨name, member⟩
  · have length := congrArg List.length (scanned.symm.trans alone)
    simp only [List.length_append, List.length_cons, List.length_nil] at length
    omega
  · -- The sign would be the whole operand, and an operator ends none.
    have length := congrArg List.length (scanned.symm.trans signed)
    simp only [List.length_append, List.length_cons, List.length_nil] at length
    have first : front = [] := List.eq_nil_of_length_eq_zero (by omega)
    rw [scanned, first, List.nil_append, List.singleton_append] at signed
    rw [(List.cons.inj signed).1] at ends
    cases ends
  · rw [scanned] at member
    rcases List.mem_append.1 member with inText | inMore
    · exact known name inText
    · exact continues.known name inMore

/-- A text that goes on behind an operand is no number. -/
theorem parse?_continued (written : expression.WrittenIn .operand text)
    (continues : Continues more) (nonempty : more ≠ "") :
    Decimal.parse? (text ++ more) = none := by
  cases parsed : Decimal.parse? (text ++ more) with
  | none => rfl
  | some value =>
      have empty := continuation_eq_nil_of_literal written continues parsed
      have characters : more.toList ≠ [] := by simpa using nonempty
      rcases List.exists_mem_of_ne_nil _ characters with ⟨character, member⟩
      have literal := Decimal.isPlainCharacter_of_ofChars? parsed character (by simp [member])
      exact absurd (skipped_of_continuation_eq_nil empty character member) (kindOf_ne_none literal)

theorem ofTokens_operand {tokens : List Token} (written : expression.Written .operand tokens)
    (rest : List Token) :
    ReversePolish.ofTokens (tokens ++ rest) =
      expression.postOrder ++ ReversePolish.ofTokens rest := by
  rcases ReversePolish.settles_written written (.nil .operand) with
    ⟨emitted, pending, split, operators, ordered⟩
  rw [operators.eq_nil, List.append_nil] at split
  rw [ReversePolish.ofTokens, ordered, operators.eq_nil, split]
  rfl

/-- A text that begins with an operand goes on with the value of the operand on the stack. -/
theorem run_continued (context : Context) (written : expression.WrittenIn .operand text)
    (continues : Continues more) :
    ReversePolish.run context (ReversePolish.ofTokens (expressionTokens (text ++ more))) =
      (expression.value context).bind fun value =>
        (ReversePolish.runFrom context [value] (ReversePolish.ofTokens (continuation more))).bind
          (ReversePolish.renderBottom context) := by
  rcases scan_continued written continues with ⟨tokens, grammar, -, -, read⟩
  rw [read, ofTokens_operand grammar, ReversePolish.run, ReversePolish.runFrom_append,
    expression.runFrom_postOrder]
  cases expression.value context <;> rfl

/-! ## Answers that go on -/

/-- Runs that go on from two decimals of one number agree. -/
theorem agree_continued {value other : Decimal} (same : value.SameNumber other)
    (noFunction : ∀ named : UnaryFunction, named.name.toList ∉ Lexeme.split more.toList) :
    Agree Eq
      ((ReversePolish.runFrom context [value] (ReversePolish.ofTokens (continuation more))).bind
        (ReversePolish.renderBottom context))
      ((ReversePolish.runFrom context [other] (ReversePolish.ofTokens (continuation more))).bind
        (ReversePolish.renderBottom context)) := by
  have sameTokens : List.Forall₂ SameToken (ReversePolish.ofTokens (continuation more))
      (ReversePolish.ofTokens (continuation more)) := by
    refine List.forall₂_same.2 fun token member => .same fun isFunction => ?_
    cases token with
    | function named =>
        rw [ReversePolish.mem_ofTokens (by simp) (by simp)] at member
        exact noFunction named (name_mem_of_function_mem member)
    | _ => cases isFunction
  exact (ReversePolish.agree_runFrom sameTokens (.cons same .nil)).bind
    ReversePolish.agree_renderBottom

/-- A group by itself shows the value of the expression, also where the expression is a number that
is written in another way. -/
theorem answer_group_eq_iff {value literal : Decimal}
    (isAnswer : IsAnswerOf context expression text (answer context text) value literal)
    (rendered : value.render context = .ok (answer context (parenthesized text))) :
    answer context (parenthesized text) = answer context text ↔
      Decimal.parse? text = none ∨ IsPlain text.toList := by
  constructor
  · intro same
    cases parsed : Decimal.parse? text with
    | none => exact .inl rfl
    | some number =>
        right
        have own : answer context text = text := answer_of_literal (by simp [parsed])
        rw [same, own] at rendered
        exact Decimal.isPlain_of_render rendered
  · rintro (notNumber | plain)
    · exact Except.ok.inj (rendered.symm.trans (isAnswer.rendered notNumber))
    · rcases Decimal.exists_plainText_of_isPlain plain with ⟨number, read, shown, -⟩
      have own : answer context text = text := answer_of_literal (by simp [read])
      have parsed := isAnswer.parsed
      rw [own, read] at parsed
      cases parsed
      have shows := Decimal.isPlainTextOf_plainText literal
      rw [shown, ← isAnswer.same] at shows
      rw [own]
      exact (Decimal.isPlainTextOf_render rendered).unique shows

/-- The answer to an answer that is written on, against the answer to the expression in parentheses
that is written on. -/
theorem answer_answer_append (context : Context) {whole : Expression}
    (written : expression.WrittenIn .sum text)
    (continued : whole.WrittenIn .sum (parenthesized text ++ more))
    (noFunction : ∀ named : UnaryFunction, named.name.toList ∉ Lexeme.split more.toList)
    (answered : answer context text ≠ errorMarker)
    (groupAnswered : answer context (parenthesized text ++ more) ≠ errorMarker)
    (resultAnswered : answer context (answer context text ++ more) ≠ errorMarker) :
    (answer context (parenthesized text ++ more) = answer context (answer context text ++ more) ↔
        more ≠ "" ∨ Decimal.parse? text = none ∨ IsPlain text.toList) ∧
      ∃ number other, Decimal.parse? (answer context (parenthesized text ++ more)) = some number ∧
        Decimal.parse? (answer context (answer context text ++ more)) = some other ∧
        number.SameNumber other := by
  have continues := continues_of_group written continued
  have notLiteral : Decimal.parse? (parenthesized text ++ more) = none :=
    Decimal.parse?_eq_none_of_openParen (by simp [parenthesized])
  rcases exists_isAnswerOf written answered with ⟨value, literal, isAnswer⟩
  have groupRun := run_of_answer groupAnswered notLiteral
  rw [run_continued context written.group continues, Expression.value, isAnswer.computed]
    at groupRun
  by_cases empty : more = ""
  · subst empty
    have rendered : value.render context = .ok (answer context (parenthesized text ++ "")) :=
      groupRun
    rw [String.append_empty] at rendered
    rw [String.append_empty, String.append_empty, answer_answer]
    refine ⟨?_, ?_⟩
    · simpa using answer_group_eq_iff isAnswer rendered
    · rcases (Decimal.isPlainTextOf_render rendered).exists_parse? with ⟨number, read, same⟩
      exact ⟨number, literal, read, isAnswer.parsed, same.trans isAnswer.same⟩
  · have resultRun := run_of_answer resultAnswered
      (parse?_continued isAnswer.written continues empty)
    rw [run_continued context isAnswer.written continues] at resultRun
    have agree : Agree Eq (.ok (answer context (parenthesized text ++ more)))
        (.ok (answer context (answer context text ++ more))) := by
      rw [← groupRun, ← resultRun]
      exact agree_continued isAnswer.same noFunction
    have same := agree.of_ok
    refine ⟨iff_of_true same (.inl empty), ?_⟩
    rcases exists_evaluation groupAnswered with ⟨evaluation, evaluated⟩
    rcases Option.isSome_iff_exists.1 (parse?_answer_of_evaluate evaluated) with ⟨number, read⟩
    exact ⟨number, number, read, same ▸ read, .refl number⟩

namespace Machine

/-- An answer that is written on is answered as the expression in parentheses is, written on in the
same way, if the machine gives the three answers. Only if nothing is written on and the expression
is a number in another writing than the plain one do the texts differ; they are texts of the same
number then. -/
theorem answer_continued (context : Context) {whole : Expression}
    {result groupResult continuedResult : String}
    (written : expression.WrittenIn .sum text)
    (continued : whole.WrittenIn .sum (parenthesized text ++ more))
    (noFunction : ∀ named : UnaryFunction, named.name.toList ∉ Lexeme.split more.toList)
    (answered : answer context text = .ok result) (succeeded : result ≠ errorMarker)
    (groupAnswered : answer context (parenthesized text ++ more) = .ok groupResult)
    (groupSucceeded : groupResult ≠ errorMarker)
    (resultAnswered : answer context (result ++ more) = .ok continuedResult)
    (resultSucceeded : continuedResult ≠ errorMarker) :
    (groupResult = continuedResult ↔
        more ≠ "" ∨ Decimal.parse? text = none ∨ IsPlain text.toList) ∧
      ∃ number other, Decimal.parse? groupResult = some number ∧
        Decimal.parse? continuedResult = some other ∧ number.SameNumber other := by
  rcases answer_eq_ok_iff.1 answered with ⟨-, rfl⟩
  rcases answer_eq_ok_iff.1 groupAnswered with ⟨-, rfl⟩
  rcases answer_eq_ok_iff.1 resultAnswered with ⟨-, rfl⟩
  exact answer_answer_append context written continued noFunction succeeded groupSucceeded
    resultSucceeded

/-- The sign of the answer is read as a part of it, so the power applies to the negative number. -/
theorem answer_continued_negative :
    answer Context.default "1-3" = .ok "-2" ∧
      answer Context.default "-2^3/7" = .ok "-1.142857142857143" ∧
      answer Context.default "(1-3)^3/7" = .ok "-1.142857142857143" := by
  have one : (Expression.literal ⟨1, 0⟩).WrittenIn .operand "1" :=
    .numeral (.whole (by decide) (by decide))
  have three : (Expression.literal ⟨3, 0⟩).WrittenIn .operand "3" :=
    .numeral (.whole (by decide) (by decide))
  have seven : (Expression.literal ⟨7, 0⟩).WrittenIn .operand "7" :=
    .numeral (.whole (by decide) (by decide))
  have difference : (Expression.binary .minus (.literal ⟨1, 0⟩) (.literal ⟨3, 0⟩)).WrittenIn .sum
      "1-3" :=
    .binary .minus (.loosened one (by decide)) (.loosened three (by decide))
  have power : Expression.WrittenIn .power
      (.binary .caret (.group (.binary .minus (.literal ⟨1, 0⟩) (.literal ⟨3, 0⟩)))
        (.literal ⟨3, 0⟩)) "(1-3)^3" :=
    .binary .caret difference.group (.loosened three (by decide))
  have quotient : Expression.WrittenIn .product
      (.binary .slash (.binary .caret (.group (.binary .minus (.literal ⟨1, 0⟩) (.literal ⟨3, 0⟩)))
        (.literal ⟨3, 0⟩)) (.literal ⟨7, 0⟩)) (parenthesized "1-3" ++ "^3/7") :=
    .binary .slash (.loosened power (by decide)) (.loosened seven (by decide))
  have negative : answer Context.default "1-3" = .ok "-2" := by decide +kernel
  have continued : answer Context.default "-2^3/7" = .ok "-1.142857142857143" := by decide +kernel
  have groupAnswers : (answer Context.default "(1-3)^3/7").map (· != errorMarker) = .ok true := by
    decide +kernel
  rcases map_eq_ok.1 groupAnswers with ⟨groupResult, groupAnswered, groupSucceeded⟩
  have same := (answer_continued Context.default difference (.loosened quotient (by decide))
    (by intro named; cases named <;> decide) negative (by decide) groupAnswered
    (by simpa using groupSucceeded) continued (by decide)).1.2 (.inl (by decide))
  rw [same] at groupAnswered
  exact ⟨negative, continued, groupAnswered⟩

/-- A number is answered as it is written, and in parentheses without the zeros that end its
fraction. At the largest precision that a word of 64 bits holds, a quotient has no answer. -/
theorem answer_continued_ne :
    (Expression.literal ⟨250, 2⟩).WrittenIn .sum "2.50" ∧
      (Expression.group (.literal ⟨250, 2⟩)).WrittenIn .sum (parenthesized "2.50" ++ "") ∧
      (∀ named : UnaryFunction, named.name.toList ∉ Lexeme.split "".toList) ∧
      answer Context.default "2.50" = .ok "2.50" ∧
      answer Context.default (parenthesized "2.50" ++ "") = .ok "2.5" ∧
      answer Context.default ("2.50" ++ "") = .ok "2.50" ∧
      answer ⟨18446744073709551615, 3000, 10000⟩ "6" = .ok "6" ∧
      answer ⟨18446744073709551615, 3000, 10000⟩ (parenthesized "6" ++ "/2") =
        .error (.length 18446744073709551618) ∧
      answer ⟨18446744073709551615, 3000, 10000⟩ ("6" ++ "/2") =
        .error (.length 18446744073709551618) := by
  have number : (Expression.literal ⟨250, 2⟩).WrittenIn .operand "2.50" :=
    .numeral (@Numeral.pointed ['2'] ['5', '0'] (by decide) (by decide))
  refine ⟨.loosened number (by decide), ?_, by simp [Lexeme.split], ?_⟩
  · rw [String.append_empty]
    exact .loosened (.group (.loosened number (by decide))) (by decide)
  · decide +kernel

end Machine

end DecimalCalculator
