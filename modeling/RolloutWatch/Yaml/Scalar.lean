import RolloutWatch.Binary64.Shortest
import RolloutWatch.Text.Numeral
import RolloutWatch.Text.Quoted
import RolloutWatch.Yaml.Event

/-!
# The meaning of scalars

A plain scalar means a null, a truth value, a number or a text, by how it is
written; a quoted or block scalar is a text. A tag of the standard set decides the
kind instead, and a local tag on a plain scalar decides nothing.

Integers are decimal, or hexadecimal, octal or binary behind `0x`, `0o` and `0b`.
Digits that begin with a superfluous zero are a text.
-/

namespace RolloutWatch.Yaml

/-- What a document holds at a place. -/
inductive Found where
  | sequence
  | mapping
  | unit
  | boolean (value : Bool)
  | integer (value : Int)
  /-- A number in floating point, by its text. -/
  | float (value : String)
  | text (value : String)
deriving DecidableEq, Repr

namespace Found

/-- The name of the width that an integer needs beyond 64 bits. -/
def wideName (value : Int) : String :=
  if 18446744073709551615 < value then " as u128"
  else if value < -9223372036854775808 then " as i128"
  else ""

def describe : Found → String
  | sequence => "sequence"
  | mapping => "map"
  | unit => "unit value"
  | boolean value => "boolean `" ++ toString value ++ "`"
  | integer value => "integer `" ++ toString value ++ "`" ++ wideName value
  | float value => "floating point `" ++ value ++ "`"
  | text value => "string " ++ Text.quoted value

end Found

/-- Digits that begin with a superfluous zero, with a sign or without. -/
def isPaddedNumber (text : List Char) : Bool :=
  let digits :=
    match text with
    | '+' :: rest => rest
    | '-' :: rest => rest
    | rest => rest
  match digits with
  | '0' :: c :: rest => (c :: rest).all (·.isDigit)
  | _ => false

/-- The digits of a number behind the mark of their base. -/
def basedNumeral? : List Char → Option Nat
  | '0' :: 'x' :: digits => Text.numeral? 16 digits
  | '0' :: 'o' :: digits => Text.numeral? 8 digits
  | '0' :: 'b' :: digits => Text.numeral? 2 digits
  | _ => none

/-- The number of a text without a minus sign. A plus sign may stand in front. -/
def natural? (text : List Char) : Option Nat :=
  let unsigned :=
    match text with
    | '+' :: rest => rest
    | rest => rest
  match basedNumeral? unsigned with
  | some n => some n
  | none => if isPaddedNumber text then none else Text.numeral? 10 unsigned

/-- The number of a text with a minus sign, without the sign. -/
def negated? : List Char → Option Nat
  | '-' :: rest =>
    match basedNumeral? rest with
    | some n => some n
    | none => if isPaddedNumber ('-' :: rest) then none else Text.numeral? 10 rest
  | _ => none

/-- The first number that does not fit into 128 bits: 2¹²⁸. -/
def wideLimit : Nat := 340282366920938463463374607431768211456

/-- The integer of a text, if it is one that fits into 128 bits, a negative one with its sign. -/
def integer? (text : List Char) : Option Int :=
  match natural? text with
  | some n => if n < wideLimit then some n else none
  | none =>
    match negated? text with
    | some n => if 2 * n ≤ wideLimit then some (-n) else none
    | none => none

/-- The digits, the places and the exponent of a number in decimal notation. -/
structure DecimalNotation where
  digits : Nat
  /-- The power of ten that the digits are multiplied by. -/
  power : Int
deriving DecidableEq, Repr

/-- Reads the exponent behind the digits of a number, if there is one. -/
def exponent? : List Char → Option Int
  | [] => some 0
  | c :: rest =>
    if c == 'e' || c == 'E' then
      match rest with
      | '-' :: digits => (Text.numeral? 10 digits).map fun n => -(n : Int)
      | '+' :: digits => (Text.numeral? 10 digits).map fun n => (n : Int)
      | digits => (Text.numeral? 10 digits).map fun n => (n : Int)
    else none

/-- Reads a number without a sign in decimal notation: digits with a point in front,
among or behind them, and perhaps an exponent. -/
def decimalNotation? (text : List Char) : Option DecimalNotation := do
  let whole := text.takeWhile (·.isDigit)
  let (fraction, rest) : List Char × List Char :=
    match text.dropWhile (·.isDigit) with
    | '.' :: rest => (rest.takeWhile (·.isDigit), rest.dropWhile (·.isDigit))
    | rest => ([], rest)
  if whole.isEmpty && fraction.isEmpty then none
  else
    let exponent ← exponent? rest
    some { digits := Text.decimal (whole ++ fraction), power := exponent - fraction.length }

/-- The finite number in floating point that is nearest to a decimal, as text. -/
def finiteText? (text : List Char) : Option String := do
  let (sign, unsigned) :=
    match text with
    | '-' :: rest => ("-", rest)
    | rest => ("", rest)
  let decimal ← decimalNotation? unsigned
  let value ← Binary64.ofDecimal? decimal.digits decimal.power
  some (sign ++ value.toText)

/-- The number in floating point that a text means, as text. -/
def float? (text : List Char) : Option String :=
  let unsigned :=
    match text with
    | '+' :: rest => rest
    | rest => rest
  if [".inf", ".Inf", ".INF"].contains (String.ofList unsigned) then some "inf"
  else if ["-.inf", "-.Inf", "-.INF"].contains (String.ofList text) then some "-inf"
  else if [".nan", ".NaN", ".NAN"].contains (String.ofList text) then some "NaN"
  else
    match text with
    | '+' :: '+' :: _ => none
    | '+' :: '-' :: _ => none
    | _ => finiteText? unsigned

def isNull (text : String) : Bool :=
  ["null", "Null", "NULL", "~"].contains text

def boolean? (text : String) : Option Bool :=
  if ["true", "True", "TRUE"].contains text then some true
  else if ["false", "False", "FALSE"].contains text then some false
  else none

/-- What a plain scalar without a standard tag means. -/
def plainMeaning (text : List Char) : Found :=
  let word := String.ofList text
  if text.isEmpty || isNull word then .unit
  else
    match boolean? word with
    | some value => .boolean value
    | none =>
      match integer? text with
      | some value => .integer value
      | none =>
        if isPaddedNumber text then .text word
        else
          match float? text with
          | some value => .float value
          | none => .text word

/-- The prefix of the tags of the standard set. -/
def standardTag (name : String) : List Char :=
  "tag:yaml.org,2002:".toList ++ name.toList

namespace Scalar

def word (s : Scalar) : String :=
  String.ofList s.text

/-- Whether the scalar is a plain one without text, as a value that is not written. -/
def isUnwritten (s : Scalar) : Bool :=
  s.style == .plain && s.text.isEmpty

/-- What the scalar means without a standard tag. -/
def untaggedMeaning (s : Scalar) : Found :=
  if s.style == .plain then plainMeaning s.text else .text s.word

/-- What the scalar means. If its text does not fit its standard tag, the kind that
the tag asks for. -/
def meaning (s : Scalar) : Except String Found :=
  let orKind (kind : String) (value : Option Found) : Except String Found :=
    match value with
    | some value => .ok value
    | none => .error kind
  match s.tag with
  | none => .ok s.untaggedMeaning
  | some tag =>
    if tag == standardTag "bool" then orKind "a boolean" ((boolean? s.word).map .boolean)
    else if tag == standardTag "int" then orKind "an integer" ((integer? s.text).map .integer)
    else if tag == standardTag "float" then orKind "a float" ((float? s.text).map .float)
    else if tag == standardTag "null" then
      orKind "null" (if isNull s.word then some .unit else none)
    else if tag.head? == some '!' then .ok s.untaggedMeaning
    else .ok (.text s.word)

/-- The unsigned 64-bit number that the scalar means, if it is read as one. Besides
plain scalars this holds for literal ones with the tag of integers. -/
def count? (s : Scalar) : Option Nat :=
  let readable := s.style == .plain || (s.style == .literal && s.tag == some (standardTag "int"))
  match natural? s.text with
  | some n => if readable && n ≤ 18446744073709551615 then some n else none
  | none => none

end Scalar

end RolloutWatch.Yaml
