import DecimalCalculator.Context
import DecimalCalculator.Digits

/-!
# Reading the command line

The program takes one expression, a precision and two switches. Arguments are read from left to
right; the first fault ends the reading, and a request for the version met before any fault is
answered at once. An argument that starts with a minus sign and is longer than that is an
option; behind `--` there are none.
-/

namespace DecimalCalculator.CommandLine

structure Options where
  expression : Option String
  precision : Option Nat
  scientific : Bool
  derivation : Bool
  deriving DecidableEq, Repr

namespace Options

def unset : Options := ⟨none, none, false, false⟩

def context (options : Options) : Context :=
  Context.ofPrecision (options.precision.getD Context.defaultPrecision)

/-- Sets the expression; there may be only one. -/
def takeExpression (options : Options) (text : String) : Option Options :=
  if options.expression.isSome then none else some { options with expression := some text }

/-- A precision between 1 and 200: digits, possibly with a plus sign before them. -/
def readPrecision? (text : String) : Option Nat :=
  let digits :=
    match text.toList with
    | '+' :: digits => digits
    | digits => digits
  (readDigits? digits).filter fun precision =>
    1 ≤ precision && precision ≤ Context.maximalPrecision

def takePrecision (options : Options) (text : String) : Option Options :=
  if options.precision.isSome then none
  else (readPrecision? text).map fun precision => { options with precision := some precision }

def takeSwitch (options : Options) : String → Option Options
  | "--scientifique" =>
    if options.scientific then none else some { options with scientific := true }
  | "--demarche" =>
    if options.derivation then none else some { options with derivation := true }
  | _ => none

end Options

/-- The value of a precision written in the same argument. -/
def attachedPrecision? (argument : String) : Option String :=
  let start := "--precision=".toList
  if start.isPrefixOf argument.toList then
    some (String.ofList (argument.toList.drop start.length))
  else none

def isOption (argument : String) : Bool :=
  match argument.toList with
  | '-' :: _ :: _ => true
  | _ => false

/-- Whether an option asks for the version. Behind the short form anything may follow. -/
def asksVersion (argument : String) : Bool :=
  argument == "--version" || ['-', 'V'].isPrefixOf argument.toList

/-- What reading the arguments comes to. -/
inductive Request
  | run (options : Options)
  | version
  | misuse
  deriving DecidableEq, Repr

/-- Reads arguments among which there are no options any more. -/
def readExpressions (options : Options) (arguments : List String) : Request :=
  match arguments.foldlM Options.takeExpression options with
  | some options => .run options
  | none => .misuse

def readFrom (options : Options) : List String → Request
  | [] => .run options
  | "--" :: rest => readExpressions options rest
  | "--precision" :: [] => .misuse
  | "--precision" :: value :: rest =>
    match options.takePrecision value with
    | some options => readFrom options rest
    | none => .misuse
  | argument :: rest =>
    if isOption argument && asksVersion argument then .version
    else
      let taken :=
        if !isOption argument then options.takeExpression argument
        else
          match attachedPrecision? argument with
          | some value => options.takePrecision value
          | none => options.takeSwitch argument
      match taken with
      | some options => readFrom options rest
      | none => .misuse

def Request.parse (arguments : List String) : Request :=
  readFrom Options.unset arguments

end DecimalCalculator.CommandLine
