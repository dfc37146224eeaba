import DecimalCalculator.Text.Shown

/-!
# Quoted texts

A text is quoted by double quotes around it. Inside, a quote and a backslash get a backslash in
front, the usual control characters are named by a letter, and every other character that is not
shown is written by its code point.
-/

namespace DecimalCalculator.Text

def codePoint (character : Char) : List Char :=
  ['\\', 'u', '\x7b'] ++ Nat.toDigits 16 character.toNat ++ ['\x7d']

def escape (character : Char) : List Char :=
  match character with
  | '"' => ['\\', '"']
  | '\\' => ['\\', '\\']
  | '\n' => ['\\', 'n']
  | '\r' => ['\\', 'r']
  | '\t' => ['\\', 't']
  | '\x00' => ['\\', '0']
  | other => if isShown other then [other] else codePoint other

def quote (text : String) : String :=
  String.ofList ('"' :: text.toList.flatMap escape ++ ['"'])

end DecimalCalculator.Text
