import RolloutWatch.Duration.Basic

/-!
# Instants

A point in time counted from the beginning of 1970, Universal Time, in seconds
and nanoseconds. A leap second is written as its predecessor with a full second
of nanoseconds more. Instants are ordered by seconds first and by nanoseconds
within a second.

There is a latest instant. An instant beyond it cannot be represented, so adding
a duration may fail.
-/

namespace RolloutWatch

/-- A point in time. -/
@[ext] structure Instant where
  /-- The seconds since 1970, negative before that year. -/
  seconds : Int
  /-- The nanoseconds since then, 10⁹ or more within a leap second. -/
  nanos : Nat := 0
deriving DecidableEq, Repr

namespace Instant

instance : LT Instant where
  lt a b := a.seconds < b.seconds ∨ (a.seconds = b.seconds ∧ a.nanos < b.nanos)

theorem lt_iff {a b : Instant} :
    a < b ↔ a.seconds < b.seconds ∨ (a.seconds = b.seconds ∧ a.nanos < b.nanos) := Iff.rfl

instance (a b : Instant) : Decidable (a < b) :=
  decidable_of_iff _ lt_iff.symm

/-- The instant a number of nanoseconds after the beginning of 1970. -/
def ofNanos (nanos : Int) : Instant where
  seconds := nanos / 1000000000
  nanos := (nanos % 1000000000).toNat

/-- The last instant of the year 262142. -/
def latest : Instant where
  seconds := 8210266876799
  nanos := 999999999

/-- The longest step between two instants: 2⁶³ - 1 milliseconds. -/
def longestStep : Duration where
  seconds := 9223372036854775
  nanos := 807000000

/-- The instant one duration later, if the step is not too long and the instant
not beyond the latest. -/
def add? (start : Instant) (step : Duration) : Option Instant :=
  if step.toNanos ≤ longestStep.toNanos then
    let nanos := start.nanos + step.nanos
    let sum : Instant := {
      seconds := start.seconds + step.seconds + nanos / 1000000000
      nanos := nanos % 1000000000 }
    if latest < sum then none else some sum
  else none

end Instant

end RolloutWatch
