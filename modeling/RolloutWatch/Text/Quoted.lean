import RolloutWatch.Text.Hidden

/-!
# Quoted text in messages

A message shows a piece of text between double quotes. The quote, the backslash
and four control characters have short escapes. Every other character that has
no shape of its own is shown by its code point in braces, so that two different
texts never look alike.
-/

namespace RolloutWatch.Text

/-- The code point in lower-case hexadecimal digits, without leading zeros. -/
def hexDigits (c : Char) : List Char :=
  Nat.toDigits 16 c.toNat

/-- One character as it stands between the quotes. -/
def showChar (c : Char) : List Char :=
  match c with
  | '"' => ['\\', '"']
  | '\\' => ['\\', '\\']
  | '\n' => ['\\', 'n']
  | '\r' => ['\\', 'r']
  | '\t' => ['\\', 't']
  | '\x00' => ['\\', '0']
  | c => if isHidden c then '\\' :: 'u' :: '\x7b' :: hexDigits c ++ ['\x7d'] else [c]

/-- A text between double quotes. -/
def quoted (text : String) : String :=
  String.ofList ('"' :: text.toList.flatMap showChar ++ ['"'])

end RolloutWatch.Text
