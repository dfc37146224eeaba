import DecimalCalculator.CommandLine.Outcome
import DecimalCalculator.Proofs.Evaluation.Printable
import DecimalCalculator.Proofs.Machine.Calculator

/-!
# The command line agrees with the calculator

An expression is answered in three places: by the library, by the program, and by the preview of a
calculator. Each of them takes the success and the failure of the evaluation apart on its own. They
show the same texts all the same, for every expression and every precision that the program accepts,
unless the machine stops at the expression. It stops in all three places then, and the program ends
without having printed anything.

The program is judged by what it prints, read line by line. The lines can be told apart because no
text that is printed contains a line break.
-/

namespace DecimalCalculator.CommandLine

/-! ## Arguments -/

/-- The arguments that ask for an expression at a precision, with its derivation if that is wanted.
An expression with a minus sign in front stands behind `--`. -/
def invocation (precision : Nat) (derivation : Bool) (expression : String) : List String :=
  ["--precision", toString precision] ++ (if derivation then ["--demarche"] else []) ++
    (if expression.toList.head? = some '-' then ["--", expression] else [expression])

theorem readPrecision?_toString {precision : Nat} (positive : 1 ≤ precision)
    (bounded : precision ≤ Context.maximalPrecision) :
    Options.readPrecision? (toString precision) = some precision := by
  have written : (toString precision).toList = digitsOf precision := by simp
  have unsigned : ∀ digits, digitsOf precision ≠ '+' :: digits := by
    intro digits plus
    have allDigits := allDigits_digitsOf precision
    rw [plus] at allDigits
    exact absurd (allDigits '+' List.mem_cons_self) (by decide)
  have inRange : (1 ≤ precision && precision ≤ Context.maximalPrecision) = true := by
    simp [positive, bounded]
  rw [Options.readPrecision?, written]
  split
  next digits plus => exact absurd plus (unsigned digits)
  next =>
    rw [readDigits?_digitsOf]
    exact Option.filter_some_pos inRange

section Reading

variable {options : Options} {expression : String} {precision : Nat}

theorem readFrom_precision (positive : 1 ≤ precision)
    (bounded : precision ≤ Context.maximalPrecision) (unset : options.precision = none)
    (rest : List String) :
    readFrom options ("--precision" :: toString precision :: rest) =
      readFrom { options with precision := some precision } rest := by
  have taken : options.takePrecision (toString precision) =
      some { options with precision := some precision } := by
    rw [Options.takePrecision, unset, readPrecision?_toString positive bounded]
    rfl
  rw [readFrom, taken]

theorem readFrom_derivation (unset : options.derivation = false) (rest : List String) :
    readFrom options ("--demarche" :: rest) =
      readFrom { options with derivation := true } rest := by
  have isSwitch : isOption "--demarche" = true ∧ asksVersion "--demarche" = false ∧
      attachedPrecision? "--demarche" = none := by decide
  simp [readFrom, isSwitch, Options.takeSwitch, unset]

theorem takeExpression_eq (unset : options.expression = none) :
    options.takeExpression expression = some { options with expression := some expression } := by
  simp [Options.takeExpression, unset]

theorem readFrom_separated (unset : options.expression = none) :
    readFrom options ["--", expression] = .run { options with expression := some expression } := by
  simp [readFrom, readExpressions, takeExpression_eq unset]

theorem readFrom_expression (noSign : expression.toList.head? ≠ some '-')
    (unset : options.expression = none) :
    readFrom options [expression] = .run { options with expression := some expression } := by
  have noOption : isOption expression = false := by
    rw [isOption]
    split
    next written => simp [written] at noSign
    next => rfl
  have notEnd : expression ≠ "--" := by
    rintro rfl
    exact noSign rfl
  have notPrecision : expression ≠ "--precision" := by
    rintro rfl
    exact noSign rfl
  rw [readFrom]
  · simp [noOption, takeExpression_eq unset, readFrom]
  · exact notEnd
  · exact fun same _ => notPrecision same
  · exact fun _ _ same _ => notPrecision same

end Reading

theorem parse_invocation {precision : Nat} (positive : 1 ≤ precision)
    (bounded : precision ≤ Context.maximalPrecision) (derivation : Bool) (expression : String) :
    Request.parse (invocation precision derivation expression) =
      .run ⟨some expression, some precision, false, derivation⟩ := by
  have expressionRead : ∀ options : Options, options.expression = none →
      readFrom options
          (if expression.toList.head? = some '-' then ["--", expression] else [expression]) =
        .run { options with expression := some expression } := by
    intro options unset
    split
    next => exact readFrom_separated unset
    next noSign => exact readFrom_expression noSign unset
  rw [Request.parse, invocation, List.append_assoc, List.cons_append, List.cons_append,
    List.nil_append, readFrom_precision positive bounded rfl]
  cases derivation with
  | false => exact expressionRead _ rfl
  | true =>
      rw [if_pos rfl, List.singleton_append, readFrom_derivation rfl]
      exact expressionRead _ rfl

/-! ## Lines -/

/-- The lines of a printed text. Every line ends with a line break, so nothing stands behind the
last one. -/
def printedLines (output : String) : List String :=
  ((output.toList.splitOn '\n').dropLast).map String.ofList

theorem toList_joinLines (lines : List String) :
    (joinLines lines).toList = ['\n'].intercalate (lines.map String.toList ++ [[]]) := by
  induction lines with
  | nil => simp [joinLines]
  | cons line lines ih =>
      have joined : (joinLines (line :: lines)).toList =
          line.toList ++ ['\n'] ++ (joinLines lines).toList := by
        simp [joinLines]
      rw [joined, ih]
      cases lines <;> simp [List.intercalate]

theorem printedLines_joinLines {lines : List String}
    (unbroken : ∀ line ∈ lines, '\n' ∉ line.toList) : printedLines (joinLines lines) = lines := by
  have pieces : ∀ piece ∈ lines.map String.toList ++ [[]], '\n' ∉ piece := by
    rw [List.forall_mem_append]
    exact ⟨List.forall_mem_map.2 unbroken, by simp⟩
  rw [printedLines, toList_joinLines, List.splitOn_intercalate '\n' pieces (by simp),
    List.dropLast_concat, List.map_map]
  simp

theorem newline_not_mem {text : String} (printable : AllPrintable text) : '\n' ∉ text.toList := by
  intro member
  exact absurd (printable '\n' member) (by decide)

/-! ## Answers -/

/-- The lines that tell how an answer was reached. -/
def derivationLines (derivation : Derivation) : List String :=
  ["jetons : " ++ derivation.tokens, "rpn    : " ++ derivation.reversePolish]

theorem outputLines_eq (derivation : Bool) (result : Except CalculationError Evaluation) :
    outputLines derivation result =
      (match result with
        | .ok evaluation => if derivation then derivationLines evaluation.derivation else []
        | .error _ => []) ++ [Evaluation.shown result] := by
  cases result <;> cases derivation <;> rfl

theorem allPrintable_derivationLines {context : Context} {expression : String}
    {evaluation : Evaluation} (evaluated : evaluate context expression = .ok evaluation) :
    ∀ line ∈ derivationLines evaluation.derivation, AllPrintable line := by
  have printable := allPrintable_of_evaluate evaluated
  have tokensLabel : AllPrintable "jetons : " := by
    simp [AllPrintable, IsPrintable]
  have reversePolishLabel : AllPrintable "rpn    : " := by
    simp [AllPrintable, IsPrintable]
  rw [derivationLines, List.forall_mem_cons, List.forall_mem_singleton]
  exact ⟨tokensLabel.append printable.2.1, reversePolishLabel.append printable.2.2⟩

theorem allPrintable_outputLines (context : Context) (derivation : Bool) (expression : String) :
    ∀ line ∈ outputLines derivation (evaluate context expression), AllPrintable line := by
  have printable := allPrintable_answer context expression
  rw [outputLines_eq, List.forall_mem_append]
  refine ⟨?_, List.forall_mem_singleton.2 printable⟩
  cases evaluated : evaluate context expression with
  | error cause => simp
  | ok evaluation =>
      cases derivation with
      | false => simp
      | true => exact allPrintable_derivationLines evaluated

/-- What the program leaves behind agrees with the library and with the calculator. It ends well,
and what it prints are whole lines. The last one is the answer, and also the preview of a
calculator that displays the expression. In front of it stands nothing but the derivation, if that
is wanted and there is one. -/
structure Agrees (context : Context) (derivation : Bool) (expression : String) (outcome : Outcome) :
    Prop where
  code_eq : outcome.code = 0
  output_eq : outcome.output = joinLines (printedLines outcome.output)
  printable : ∀ line ∈ printedLines outcome.output, AllPrintable line
  answered : ∃ shown, Machine.answer context expression = .ok shown ∧
    (printedLines outcome.output).getLast? = some shown
  lines_of_evaluate : ∀ evaluation, Machine.evaluate context expression = .ok (.ok evaluation) →
    (printedLines outcome.output).dropLast =
      if derivation then derivationLines evaluation.derivation else []
  lines_of_failure : ∀ cause, Machine.evaluate context expression = .ok (.error cause) →
    (printedLines outcome.output).dropLast = []
  previewed : ∀ calculator : Calculator,
    calculator.context = context → calculator.display = expression →
      expression ≠ "" → expression ≠ emptyDisplay →
        ∃ refreshed, Machine.refresh calculator = .ok refreshed ∧
          (printedLines outcome.output).getLast? = some refreshed.preview.text ∧
          (∀ evaluation, Machine.evaluate context expression = .ok (.ok evaluation) →
            refreshed.preview.derivation = evaluation.derivation) ∧
          ∀ cause, Machine.evaluate context expression = .ok (.error cause) →
            refreshed.preview.derivation = Derivation.empty

/-- The outcome of a request that has an expression agrees with the library and the calculator,
unless the machine stops at the expression. -/
theorem agrees_outcome {options : Options} {expression : String}
    {result : Except CalculationError Evaluation}
    (requested : options.expression = some expression)
    (evaluated : Machine.evaluate options.context expression = .ok result) :
    Agrees options.context options.derivation expression (Request.run options).outcome := by
  have outcome_eq : (Request.run options).outcome =
      ⟨0, joinLines (outputLines options.derivation result)⟩ := by
    simp only [Request.outcome, requested, evaluated]
  have printable : ∀ line ∈ outputLines options.derivation result, AllPrintable line := by
    rw [← (Machine.evaluate_eq_ok_iff.1 evaluated).2]
    exact allPrintable_outputLines options.context options.derivation expression
  have lines_eq : printedLines (Request.run options).outcome.output =
      outputLines options.derivation result := by
    rw [outcome_eq]
    exact printedLines_joinLines fun line member => newline_not_mem (printable line member)
  constructor
  case code_eq => rw [outcome_eq]
  case output_eq => rw [lines_eq, outcome_eq]
  case printable => rwa [lines_eq]
  case answered =>
    rw [lines_eq, outputLines_eq, List.getLast?_concat, Machine.answer, evaluated]
    exact ⟨_, rfl, rfl⟩
  case lines_of_evaluate =>
    intro evaluation succeeded
    rw [evaluated] at succeeded
    cases succeeded
    rw [lines_eq, outputLines_eq, List.dropLast_concat]
  case lines_of_failure =>
    intro cause failed
    rw [evaluated] at failed
    cases failed
    rw [lines_eq, outputLines_eq, List.dropLast_concat]
  case previewed =>
    rintro calculator sameContext rfl nonempty notIdle
    rw [← sameContext] at evaluated
    refine ⟨{ calculator with preview := Preview.ofEvaluation result }, ?_, ?_, ?_, ?_⟩
    · have idle := Preview.isIdle_eq_false nonempty notIdle
      rw [Machine.refresh, Machine.preview_of_not_isIdle idle, evaluated]
      rfl
    · rw [lines_eq, outputLines_eq, List.getLast?_concat, Preview.text_ofEvaluation]
    · intro evaluation succeeded
      rw [← sameContext, evaluated] at succeeded
      cases succeeded
      rfl
    · intro cause failed
      rw [← sameContext, evaluated] at failed
      cases failed
      rfl

/-- A request ends without a text if the machine stops at the expression. -/
theorem outcome_of_stop {options : Options} {expression : String} {word : Word}
    (requested : options.expression = some expression)
    (stopped : Machine.evaluate options.context expression = .error word) :
    (Request.run options).outcome = ⟨stopCode, ""⟩ := by
  simp only [Request.outcome, requested, stopped]

/-- The program, the library and the calculator agree on every expression at every precision, unless
the machine stops: there are arguments that ask for the expression, and whatever arguments ask for
it, the outcome agrees if all words of the evaluation fit. If one of them does not, the program
prints nothing. -/
theorem agrees_of_parse {precision : Nat} (positive : 1 ≤ precision)
    (bounded : precision ≤ Context.maximalPrecision) (derivation : Bool) (expression : String) :
    Request.parse (invocation precision derivation expression) =
        .run ⟨some expression, some precision, false, derivation⟩ ∧
      ∀ arguments scientific,
        Request.parse arguments =
            .run ⟨some expression, some precision, scientific, derivation⟩ →
          ((∀ word ∈ evaluationWords (Context.ofPrecision precision) expression, word.fits) →
            Agrees (Context.ofPrecision precision) derivation expression
              (Request.parse arguments).outcome) ∧
          ((∃ word ∈ evaluationWords (Context.ofPrecision precision) expression, ¬word.fits) →
            (Request.parse arguments).outcome = ⟨stopCode, ""⟩) := by
  refine ⟨parse_invocation positive bounded derivation expression, ?_⟩
  intro arguments scientific parsed
  have requested :
      Options.expression ⟨some expression, some precision, scientific, derivation⟩ =
        some expression := rfl
  rw [parsed]
  refine ⟨?_, ?_⟩
  · intro fits
    exact agrees_outcome requested (Machine.evaluate_eq_ok_iff.2 ⟨fits, rfl⟩)
  · rintro ⟨word, member, unfit⟩
    cases evaluated : Machine.evaluate (Context.ofPrecision precision) expression with
    | error word => exact outcome_of_stop requested evaluated
    | ok result =>
        have fits := (Machine.evaluate_eq_ok_iff.1 evaluated).1
        exact absurd (fits word member) unfit

/-- An expression that starts with a minus sign, with its derivation. -/
theorem agrees_of_parse_minus_third :
    Request.parse ["--demarche", "--precision=4", "--", "-(1)/3"] =
        .run ⟨some "-(1)/3", some 4, false, true⟩ ∧
      Agrees (Context.ofPrecision 4) true "-(1)/3"
        (Request.parse ["--demarche", "--precision=4", "--", "-(1)/3"]).outcome ∧
      (Request.parse ["--demarche", "--precision=4", "--", "-(1)/3"]).outcome.output =
        joinLines ["jetons : - ( 1 ) / 3", "rpn    : 1 3 / -", "-0.3333"] := by
  have parsed : Request.parse ["--demarche", "--precision=4", "--", "-(1)/3"] =
      .run ⟨some "-(1)/3", some 4, false, true⟩ := by decide
  have fits : (evaluationWords (Context.ofPrecision 4) "-(1)/3").all Word.fits := by decide +kernel
  refine ⟨parsed, ?_, ?_⟩
  · exact ((agrees_of_parse (by decide) (by decide) true "-(1)/3").2 _ false parsed).1
      (List.all_eq_true.1 fits)
  · decide +kernel

/-- The machine stops at a power of a power of zero, and the program prints nothing. -/
theorem not_agrees_of_parse :
    ¬∀ arguments expression,
      Request.parse arguments = .run ⟨some expression, some 16, false, false⟩ →
        (Request.parse arguments).outcome.code = 0 := by
  intro succeeds
  have parsed : Request.parse
      ["--precision", "16", "(0.0000000000^999999999)^999999999"] =
        .run ⟨some "(0.0000000000^999999999)^999999999", some 16, false, false⟩ := by decide
  have atDefault : Options.context
      ⟨some "(0.0000000000^999999999)^999999999", some 16, false, false⟩ = Context.default := rfl
  have stopped := Machine.evaluate_raised_zero
  rw [← atDefault] at stopped
  have code := succeeds _ _ parsed
  rw [parsed, outcome_of_stop rfl stopped] at code
  cases code

end DecimalCalculator.CommandLine
