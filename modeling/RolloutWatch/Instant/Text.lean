import RolloutWatch.Instant.Calendar
import RolloutWatch.Text.Blank
import RolloutWatch.Text.Numeral

/-!
# Instants as text

An instant is written as a date, a time of day and an offset from Universal Time,
as in `2024-05-01T12:30:00.25+02:00`. Reading is lenient: blanks may stand in
front of every number and most marks, numbers may lack leading zeros, and the
letters are accepted in either case.

Each reader takes its value from the beginning of a text and returns what follows it.
A field outside its range is reported where it stands. Whether day, month and year
fit together is looked at once the whole text has been read.
-/

namespace RolloutWatch

/-- Why a text is not an instant. -/
inductive InstantFault where
  /-- The text ends too early. -/
  | premature
  /-- A character does not belong where it stands. -/
  | invalid
  /-- Something follows the offset. -/
  | trailing
  /-- A number does not fit its field, or the fields do not fit together. -/
  | outOfRange
  /-- The date exists, but Universal Time leaves the calendar there. -/
  | impossible
deriving DecidableEq, Repr

def InstantFault.message : InstantFault → String
  | .premature => "premature end of input"
  | .invalid => "input contains invalid characters"
  | .trailing => "trailing input"
  | .outOfRange => "input is out of range"
  | .impossible => "no possible date and time matching input"

namespace Instant

/-- The largest number that a field may hold before its range is looked at. -/
def maxNumber : Nat := 9223372036854775807

/-- Reads a run of digits from the first `width` characters, at least one digit. -/
def readNumber (width : Nat) : List Char → Except InstantFault (Nat × List Char)
  | [] => .error .premature
  | c :: rest =>
    if c.isDigit then
      let digits := ((c :: rest).take width).takeWhile (·.isDigit)
      let value := Text.decimal digits
      if value ≤ maxNumber then .ok (value, (c :: rest).drop digits.length)
      else .error .outOfRange
    else .error .invalid

/-- Reads a number of one or two digits within a range, blanks in front of it. -/
def readField (low high : Nat) (text : List Char) : Except InstantFault (Nat × List Char) := do
  let (value, rest) ← readNumber 2 (Text.trimLeft text)
  if low ≤ value && value ≤ high then return (value, rest) else throw .outOfRange

/-- Reads the mark between two fields, blanks in front of it. -/
def readMark (mark : Char) (text : List Char) : Except InstantFault (List Char) :=
  match Text.trimLeft text with
  | [] => .error .premature
  | c :: rest => if c = mark then .ok rest else .error .invalid

/-- Reads a year: up to four digits, or a sign and any number of digits. -/
def readYear (text : List Char) : Except InstantFault (Int × List Char) := do
  let (year, rest) ←
    match Text.trimLeft text with
    | '-' :: digits => do
      let (value, rest) ← readNumber digits.length digits
      pure (-(value : Int), rest)
    | '+' :: digits => do
      let (value, rest) ← readNumber digits.length digits
      pure ((value : Int), rest)
    | digits => do
      let (value, rest) ← readNumber 4 digits
      pure ((value : Int), rest)
  if -2147483648 ≤ year && year ≤ 2147483647 then return (year, rest) else throw .outOfRange

/-- Reads what stands between the date and the time of day. -/
def readSeparator : List Char → Except InstantFault (List Char)
  | [] => .error .premature
  | c :: rest => if c = 'T' ∨ c = 't' ∨ c = ' ' then .ok rest else .error .invalid

/-- Reads a fraction of a second in nanoseconds. Digits after the ninth are skipped. -/
def readNanos : List Char → Except InstantFault (Nat × List Char)
  | '.' :: text => do
    let (value, rest) ← readNumber 9 text
    let scale := Nat.pow 10 (9 - (text.length - rest.length))
    return (value * scale, rest.dropWhile (·.isDigit))
  | text => .ok (0, text)

/-- Whether fewer than two bytes of the text are left. -/
def lacksTwo : List Char → Bool
  | [] => true
  | [c] => c.toNat < 0x80
  | _ => false

/-- Reads the two digits of the hours of an offset. -/
def readOffsetHours (text : List Char) : Except InstantFault (Nat × List Char) :=
  if lacksTwo text then .error .premature
  else
    match text with
    | a :: b :: rest =>
      if a.isDigit && b.isDigit then .ok (Text.decimal [a, b], rest) else .error .invalid
    | _ => .error .invalid

/-- Reads the two digits of the minutes of an offset. -/
def readOffsetMinutes (text : List Char) : Except InstantFault (Nat × List Char) := do
  let (minutes, rest) ← readOffsetHours text
  if minutes < 60 then return (minutes, rest) else throw .outOfRange

/-- The sign at the beginning of an offset: whether it is negative. -/
def readSign : List Char → Except InstantFault (Bool × List Char)
  | [] => .error .premature
  | '+' :: rest => .ok (false, rest)
  | '-' :: rest => .ok (true, rest)
  | '\u2212' :: rest => .ok (true, rest)
  | _ => .error .invalid

/-- Whether the text begins with the letters of Universal Time, in either case. -/
def isUniversal (text : List Char) : Bool :=
  (text.take 3).map Char.toLower == ['u', 't', 'c']

/-- Reads an offset from Universal Time in seconds. -/
def readOffset (text : List Char) : Except InstantFault (Int × List Char) :=
  let text := Text.trimLeft text
  if isUniversal text then .ok (0, text.drop 3)
  else
    match text with
    | 'Z' :: rest => .ok (0, rest)
    | 'z' :: rest => .ok (0, rest)
    | text => do
      let (negative, text) ← readSign text
      let (hours, text) ← readOffsetHours text
      let (minutes, rest) ←
        readOffsetMinutes (text.dropWhile fun c => c == ':' || Text.isBlank c)
      let seconds : Int := hours * 3600 + minutes * 60
      return (if negative then -seconds else seconds, rest)

/-- The fields of a written instant. -/
structure Fields where
  year : Int
  month : Nat
  day : Nat
  hour : Nat
  minute : Nat
  /-- The second, 60 for a leap second. -/
  second : Nat
  nanos : Nat
  /-- The seconds by which the fields are ahead of Universal Time. -/
  offset : Int
deriving DecidableEq, Repr

/-- Reads the fields of an instant, each within its own range. -/
def readFields (text : List Char) : Except InstantFault Fields := do
  let (year, text) ← readYear text
  let text ← readMark '-' text
  let (month, text) ← readField 1 12 text
  let text ← readMark '-' text
  let (day, text) ← readField 1 31 text
  let text ← readSeparator text
  let (hour, text) ← readField 0 23 text
  let text ← readMark ':' text
  let (minute, text) ← readField 0 59 text
  let text ← readMark ':' text
  let (second, text) ← readField 0 60 text
  let (nanos, text) ← readNanos text
  let (offset, text) ← readOffset text
  if (Text.trimLeft text).isEmpty then
    return { year, month, day, hour, minute, second, nanos, offset }
  else throw .trailing

/-- The instant that the fields describe. -/
def ofFields (fields : Fields) : Except InstantFault Instant :=
  match Calendar.daysSince1970? fields.year fields.month fields.day with
  | none => .error .outOfRange
  | some days =>
    if 86400 ≤ fields.offset.natAbs then .error .outOfRange
    else
      let leap := fields.second = 60
      let seconds : Int := days * 86400 + fields.hour * 3600 + fields.minute * 60
        + (if leap then 59 else fields.second) - fields.offset
      if seconds < Calendar.firstSecond ∨ Calendar.lastSecond < seconds then .error .impossible
      else .ok { seconds, nanos := fields.nanos + if leap then nanosPerSecond else 0 }

/-- Reads an instant. -/
def parse (text : String) : Except InstantFault Instant := do
  ofFields (← readFields text.toList)

end Instant

end RolloutWatch
