import RolloutWatch.Duration.Unit
import RolloutWatch.Text.Blank
import RolloutWatch.Text.Numeral

/-!
# Durations as text

A duration is written as a sequence of terms, each a number and a unit, such as
`1h 30m` or `2.5s`. Blanks may stand around a term, inside its number, and
between its number and its unit. The single character `0` is the zero duration.

All counts have to fit into 64 bits, and a fraction has to come out exactly. The
terms are added from left to right, and the first fault ends the reading. One sum
is not reported as a fault of the text: when the seconds stand at their largest
and the nanoseconds reach a full second, no duration can hold the sum and the
reading breaks off.
-/

namespace RolloutWatch

/-- Why a text is not a duration. -/
inductive DurationFault where
  /-- The text is not a sequence of terms, or a number in it is too large or too fine. -/
  | malformed
  /-- The sum is one nanosecond more than the longest duration; reading breaks off. -/
  | breakdown
deriving DecidableEq, Repr

namespace Duration

/-- The largest number that fits into 64 bits. -/
def maxCount : Nat := 18446744073709551615

/-- A count that fits into 64 bits. -/
def checked (count : Nat) : Except DurationFault Nat :=
  if count ≤ maxCount then .ok count else .error .malformed

/-- A number with its unit, as it is written. -/
structure Term where
  whole : Nat
  /-- The digits of the fraction as a number, and the power of ten it is divided by. -/
  fraction : Option (Nat × Nat)
  unit : TimeUnit
deriving DecidableEq, Repr

/-- The characters between the first digit of a number and what follows it. -/
def inNumber (c : Char) : Bool :=
  c.isDigit || Text.isBlank c

/-- The letters of units. -/
def inUnit (c : Char) : Bool :=
  c.isAlpha || c == 'µ'

/-- The digits at the beginning of a text, blanks between them left out. -/
def numberDigits (text : List Char) : List Char :=
  (text.takeWhile inNumber).filter (·.isDigit)

/-- The digits behind the point, if a point comes next, and what follows them. -/
def readFraction : List Char → Option (List Char) × List Char
  | '.' :: rest => (some (numberDigits rest), rest.dropWhile inNumber)
  | text => (none, text)

/-- The value of the digits behind a point, where there is a point. At least one
digit has to follow it. -/
def fraction? : Option (List Char) → Option (Option (Nat × Nat))
  | none => some none
  | some digits =>
    let scale := Nat.pow 10 digits.length
    if digits.isEmpty || maxCount < scale then none else some (some (Text.decimal digits, scale))

/-- Whether the text after a unit's name can follow it. -/
def endsUnit : List Char → Bool
  | [] => true
  | c :: _ => c.isDigit || Text.isBlank c

/-- Reads a term from a text that begins with a digit, and returns what follows it. -/
def readTerm? (text : List Char) : Option (Term × List Char) :=
  let whole := Text.decimal (numberDigits text)
  let (digits, afterNumber) := readFraction (text.dropWhile inNumber)
  let name := afterNumber.takeWhile inUnit
  let rest := afterNumber.dropWhile inUnit
  match fraction? digits, TimeUnit.ofName? (String.ofList name) with
  | some fraction, some unit =>
    if whole ≤ maxCount && endsUnit rest then some ({ whole, fraction, unit }, rest) else none
  | _, _ => none

theorem length_readFraction_le (text : List Char) : (readFraction text).2.length ≤ text.length := by
  unfold readFraction
  split
  · exact Nat.le_trans (List.dropWhile_sublist inNumber).length_le (Nat.le_succ _)
  · exact Nat.le_refl _

/-- A term takes at least its first digit away. -/
theorem length_lt_of_readTerm? {c : Char} {text rest : List Char} {term : Term}
    (digit : c.isDigit = true) (h : readTerm? (c :: text) = some (term, rest)) :
    rest.length < (c :: text).length := by
  have dropped : ((c :: text).dropWhile inNumber).length ≤ text.length := by
    have inside : inNumber c = true := by simp [inNumber, digit]
    rw [List.dropWhile_cons_of_pos inside]
    exact (List.dropWhile_sublist inNumber).length_le
  have fraction := length_readFraction_le ((c :: text).dropWhile inNumber)
  have name := (List.dropWhile_sublist inUnit
    (l := (readFraction ((c :: text).dropWhile inNumber)).2)).length_le
  simp only [readTerm?] at h
  split at h
  · split at h
    · simp only [Option.some.injEq, Prod.mk.injEq] at h
      rw [← h.2, List.length_cons]
      omega
    · cases h
  · cases h

theorem length_lt_of_trimLeft {c : Char} {text tail rest : List Char} {term : Term}
    (trimmed : Text.trimLeft text = c :: tail) (digit : c.isDigit = true)
    (h : readTerm? (c :: tail) = some (term, rest)) : rest.length < text.length := by
  have bound := Text.length_trimLeft_le text
  rw [trimmed] at bound
  exact Nat.lt_of_lt_of_le (length_lt_of_readTerm? digit h) bound

/-- Adds seconds and nanoseconds to a duration. -/
def extend (d : Duration) (seconds nanos : Nat) : Except DurationFault Duration := do
  let nanos ← checked (d.nanos + nanos)
  let carry := if nanosPerSecond < nanos then nanos / nanosPerSecond else 0
  let seconds ← checked (seconds + carry)
  let seconds ← checked (d.seconds + seconds)
  match ofParts? seconds (nanos - carry * nanosPerSecond) with
  | some sum => return sum
  | none => throw .breakdown

/-- Adds `count` times a measure, divided by `divisor`, which has to divide it. -/
def extendBy (d : Duration) (count divisor : Nat) (measure : Measure) :
    Except DurationFault Duration := do
  let per : Nat :=
    match measure with
    | .nanos n => n
    | .seconds n => n
  let product ← checked (count * per)
  if product % divisor ≠ 0 then throw .malformed
  match measure with
  | .nanos _ => d.extend 0 (product / divisor)
  | .seconds _ => d.extend (product / divisor) 0

/-- Adds a term to a duration, its whole units before its fraction. -/
def addTerm (d : Duration) (term : Term) : Except DurationFault Duration := do
  let sum ← d.extendBy term.whole 1 term.unit.whole
  match term.fraction with
  | none => return sum
  | some (count, divisor) =>
    match term.unit.divisible? with
    | none => throw .malformed
    | some measure => sum.extendBy count divisor measure

/-- Adds the terms of a text to a duration. -/
def addTerms (d : Duration) (text : List Char) : Except DurationFault Duration :=
  match h : Text.trimLeft text with
  | [] => .ok d
  | c :: rest =>
    if digit : c.isDigit = true then
      match ht : readTerm? (c :: rest) with
      | none => .error .malformed
      | some (term, after) => do
        have := length_lt_of_trimLeft h digit ht
        let sum ← d.addTerm term
        sum.addTerms after
    else .error .malformed
termination_by text.length

/-- Reads a duration. There has to be at least one term. -/
def parse (text : String) : Except DurationFault Duration :=
  if text = "0" then .ok zero
  else if (Text.trimLeft text.toList).isEmpty then .error .malformed
  else zero.addTerms text.toList

end Duration

end RolloutWatch
