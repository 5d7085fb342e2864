/-!
# Strings of JSON

A text is written between double quotes, character by character. The quote and
the backslash are escaped, five control characters have short escapes, the other
ones below the space are written by four lower-case hexadecimal digits, and all
else stands for itself.

The reader accepts every string of JSON, so also the escapes that are never
written: the solidus, upper-case digits, and pairs of surrogates.
-/

namespace RolloutWatch.Json

/-- The digit for a number below 16. -/
def hexDigit (n : Nat) : Char :=
  (Nat.digitChar n)

/-- One character as it is written between the quotes. -/
def escapeChar (c : Char) : List Char :=
  match c with
  | '"' => ['\\', '"']
  | '\\' => ['\\', '\\']
  | '\x08' => ['\\', 'b']
  | '\x0c' => ['\\', 'f']
  | '\n' => ['\\', 'n']
  | '\r' => ['\\', 'r']
  | '\t' => ['\\', 't']
  | c =>
    if c.toNat < 0x20 then
      ['\\', 'u', '0', '0', hexDigit (c.toNat / 16), hexDigit (c.toNat % 16)]
    else [c]

/-- A text as a string of JSON. -/
def quote (text : List Char) : List Char :=
  '"' :: text.flatMap escapeChar ++ ['"']

/-- The value of a hexadecimal digit of either case. -/
def hexValue? (c : Char) : Option Nat :=
  if '0' ≤ c ∧ c ≤ '9' then some (c.toNat - '0'.toNat)
  else if 'a' ≤ c ∧ c ≤ 'f' then some (c.toNat - 'a'.toNat + 10)
  else if 'A' ≤ c ∧ c ≤ 'F' then some (c.toNat - 'A'.toNat + 10)
  else none

/-- The number written by four hexadecimal digits. -/
def hexNumber? (a b c d : Char) : Option Nat := do
  return 4096 * (← hexValue? a) + 256 * (← hexValue? b) + 16 * (← hexValue? c) + (← hexValue? d)

/-- The character behind a backslash that stands for one character. -/
def shortEscape? : Char → Option Char
  | '"' => some '"'
  | '\\' => some '\\'
  | '/' => some '/'
  | 'b' => some '\x08'
  | 'f' => some '\x0c'
  | 'n' => some '\n'
  | 'r' => some '\r'
  | 't' => some '\t'
  | _ => none

/-- The character of a code unit that is no surrogate. -/
def ofUnit? (n : Nat) : Option Char :=
  if h : n.isValidChar then some (Char.ofNatAux n h) else none

/-- The character of a pair of surrogates. -/
def ofPair? (high low : Nat) : Option Char :=
  if 0xD800 ≤ high ∧ high < 0xDC00 ∧ 0xDC00 ≤ low ∧ low < 0xE000 then
    ofUnit? (0x10000 + 0x400 * (high - 0xD800) + (low - 0xDC00))
  else none

/-- Reads the characters up to the closing quote and returns what follows it. -/
def readQuoted : List Char → Option (List Char × List Char)
  | [] => none
  | '"' :: rest => some ([], rest)
  | '\\' :: 'u' :: a :: b :: c :: d :: '\\' :: 'u' :: e :: f :: g :: h :: rest =>
    match hexNumber? a b c d with
    | none => none
    | some unit =>
      match ofUnit? unit with
      | some char =>
        (readQuoted ('\\' :: 'u' :: e :: f :: g :: h :: rest)).map fun r => (char :: r.1, r.2)
      | none =>
        match (hexNumber? e f g h).bind (ofPair? unit) with
        | some char => (readQuoted rest).map fun r => (char :: r.1, r.2)
        | none => none
  | '\\' :: 'u' :: a :: b :: c :: d :: rest =>
    match (hexNumber? a b c d).bind ofUnit? with
    | some char => (readQuoted rest).map fun r => (char :: r.1, r.2)
    | none => none
  | '\\' :: c :: rest =>
    match shortEscape? c with
    | some char => (readQuoted rest).map fun r => (char :: r.1, r.2)
    | none => none
  | c :: rest =>
    if c.toNat < 0x20 ∨ c = '\\' then none
    else (readQuoted rest).map fun r => (c :: r.1, r.2)

/-- The characters that may stand around a value. -/
def isSpace (c : Char) : Bool :=
  c == ' ' || c == '\t' || c == '\n' || c == '\r'

/-- Reads a string of JSON that may have spaces around it. -/
def unquote? (text : List Char) : Option (List Char) :=
  match text.dropWhile isSpace with
  | '"' :: rest =>
    match readQuoted rest with
    | some (content, after) => if after.all isSpace then some content else none
    | none => none
  | _ => none

end RolloutWatch.Json
