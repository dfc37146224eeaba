import DecimalCalculator.Journal.Basic

/-!
# Filters

A filter chooses the entries that are shown. It is written as rules separated by commas. A rule
is a level, or a path, or a path and a level with an equality sign between them. The rule with
the longest path an entry's path starts with decides, and the entry is shown if its level is at
least as important as that of the rule.
-/

namespace DecimalCalculator.Journal

/-- How deep the entries are shown whose path starts in a certain way. -/
structure Rule where
  start : String
  depth : Nat
  deriving DecidableEq, Repr

def fullDepth : Nat := 5

def depthOf? (word : String) : Option Nat :=
  match String.ofList (word.toList.map Char.toLower) with
  | "off" => some 0
  | "error" => some Level.error.depth
  | "warn" => some Level.warning.depth
  | "info" => some Level.info.depth
  | "debug" => some Level.debug.depth
  | "trace" => some fullDepth
  | _ => none

def splitAtEach (separator : Char) : List Char → List (List Char)
  | [] => [[]]
  | character :: rest =>
    match splitAtEach separator rest with
    | [] => [[character]]
    | first :: others =>
      if character = separator then [] :: first :: others else (character :: first) :: others

def trim (text : List Char) : List Char :=
  ((text.dropWhile Char.isWhitespace).reverse.dropWhile Char.isWhitespace).reverse

/-- The rule written by one part of a filter. A part that makes no sense is no rule. -/
def Rule.parse? (part : List Char) : Option Rule :=
  match splitAtEach '=' part with
  | [[]] => none
  | [word] => some <|
    match depthOf? (String.ofList word) with
    | some depth => ⟨"", depth⟩
    | none => ⟨String.ofList word, fullDepth⟩
  | [path, word] =>
    match trim word with
    | [] => some ⟨String.ofList path, fullDepth⟩
    | word => (depthOf? (String.ofList word)).map (⟨String.ofList path, ·⟩)
  | _ => none

/-- The rules of a filter. Without any only errors are shown. -/
def parseFilter (filter : String) : List Rule :=
  match (splitAtEach ',' filter.toList).filterMap fun part => Rule.parse? (trim part) with
  | [] => [⟨"", Level.error.depth⟩]
  | rules => rules

def Rule.applies (rule : Rule) (entry : Entry) : Bool :=
  rule.start.toList.isPrefixOf entry.source.path.toList

/-- Of two rules that apply the longer one decides, and of two of one length the later. -/
def deciding (chosen : Option Rule) (rule : Rule) : Option Rule :=
  match chosen with
  | some other => if rule.start.length < other.start.length then some other else some rule
  | none => some rule

def isShown (rules : List Rule) (entry : Entry) : Bool :=
  match (rules.filter (·.applies entry)).foldl deciding none with
  | some rule => entry.level.depth ≤ rule.depth
  | none => false

end DecimalCalculator.Journal
