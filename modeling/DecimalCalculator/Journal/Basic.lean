/-!
# Journal entries

An entry of the journal has a level, tells which part of the program wrote it, and carries a
message. It is written in two ways: plainly, and with the level in a column of its own.
-/

namespace DecimalCalculator.Journal

inductive Level
  | error
  | warning
  | info
  | debug
  deriving DecidableEq, Repr

namespace Level

def name : Level → String
  | error => "ERROR"
  | warning => "WARN"
  | info => "INFO"
  | debug => "DEBUG"

/-- The place of a level, the most important one first. -/
def depth : Level → Nat
  | error => 1
  | warning => 2
  | info => 3
  | debug => 4

end Level

inductive Source
  | program
  | evaluation
  | calculator
  deriving DecidableEq, Repr

def Source.path : Source → String
  | program => "calculatrice_sci"
  | evaluation => "calculatrice_sci::noyau::eval"
  | calculator => "calculatrice_sci::app::etat"

structure Entry where
  level : Level
  source : Source
  message : String
  deriving DecidableEq, Repr

namespace Entry

def line (entry : Entry) : String :=
  entry.level.name ++ " " ++ entry.source.path ++ " " ++ entry.message

def levelWidth : Nat := 5

/-- The entry as a terminal shows it, with all levels of one width. -/
def terminalLine (entry : Entry) : String :=
  "[" ++ String.ofList (entry.level.name.toList.rightpad levelWidth ' ') ++ " " ++
    entry.source.path ++ "] " ++ entry.message

end Entry

end DecimalCalculator.Journal
