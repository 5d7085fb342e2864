import RolloutWatch.Json.Quoted
import RolloutWatch.Yaml.Cursor
import RolloutWatch.Yaml.Token.Gap

/-!
# Quoted scalars

Between single quotes a character stands for itself, and a quote is written
twice. Between double quotes a backslash begins an escape, and in front of a line
break it removes the break. Either kind may run over several lines, but no line of
it may look like a mark between documents.
-/

namespace RolloutWatch.Yaml

/-- The escapes of a single letter. -/
def letterEscape? : Char → Option Char
  | '0' => some '\x00'
  | 'a' => some '\x07'
  | 'b' => some '\x08'
  | 't' => some '\t'
  | '\t' => some '\t'
  | 'n' => some '\n'
  | 'v' => some '\x0b'
  | 'f' => some '\x0c'
  | 'r' => some '\r'
  | 'e' => some '\x1b'
  | ' ' => some ' '
  | '"' => some '"'
  | '/' => some '/'
  | '\\' => some '\\'
  | 'N' => some '\u0085'
  | '_' => some '\u00a0'
  | 'L' => some '\u2028'
  | 'P' => some '\u2029'
  | _ => none

/-- The number of hexadecimal digits behind a letter that announces a code point. -/
def codeLength? : Char → Option Nat
  | 'x' => some 2
  | 'u' => some 4
  | 'U' => some 8
  | _ => none

/-- The character with a code point of exactly `count` hexadecimal digits. -/
def codePoint? (count : Nat) (text : List Char) : Option Char :=
  let digits := text.take count
  if digits.length = count then
    match digits.mapM Json.hexValue? with
    | some values => Json.ofUnit? (values.foldl (fun n d => 16 * n + d) 0)
    | none => none
  else none

/-- The escape behind a backslash: its character, and how many characters it takes. -/
def escape? : List Char → Option (Char × Nat)
  | [] => none
  | c :: rest =>
    match codeLength? c with
    | some count => (codePoint? count rest).map fun char => (char, count + 1)
    | none => (letterEscape? c).map fun char => (char, 1)

/-- Reads the rest of a quoted scalar, with the gap that has been passed since its
last word, and returns the text with the place behind the closing quote. -/
def readQuoted (double : Bool) (gap : Gap) (here : Cursor) : Option (List Char × Cursor) :=
  match h : here.rest with
  | [] => none
  | c :: rest =>
    have : here.rest.length = rest.length + 1 := by simp [h]
    match hb : here.takeBreak? with
    | some (char, next) =>
      have := Cursor.length_lt_of_takeBreak? hb
      readQuoted double (gap.addBreak char) next
    | none =>
      if isSpace c then readQuoted double (gap.addBlank c) (here.skip 1)
      else if here.column = 0 && atDocumentMark (c :: rest) then none
      else if double && c == '\\' then
        match hn : (here.skip 1).takeBreak? with
        | some (_, next) =>
          have := Cursor.length_lt_of_takeBreak? hn
          (readQuoted double (.broken none []) next).map fun r => (gap.text ++ r.1, r.2)
        | none =>
          match escape? rest with
          | some (char, count) =>
            (readQuoted double .none (here.skip (count + 1))).map fun r =>
              (gap.text ++ char :: r.1, r.2)
          | none => none
      else if c != (if double then '"' else '\'') then
        (readQuoted double .none (here.skip 1)).map fun r => (gap.text ++ c :: r.1, r.2)
      else if !double && rest.head? == some '\'' then
        (readQuoted double .none (here.skip 2)).map fun r => (gap.text ++ c :: r.1, r.2)
      else some (gap.text, here.skip 1)
termination_by here.rest.length
decreasing_by
  all_goals
    try simp only [Cursor.rest_skip, List.length_drop] at *
    omega

end RolloutWatch.Yaml
