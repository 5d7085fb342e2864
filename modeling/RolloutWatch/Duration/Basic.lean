/-!
# Durations

A span of time in whole seconds and nanoseconds. The seconds of a duration are
meant to fit into 64 bits, and the constructor that checks this is
`Duration.ofParts?`.
-/

namespace RolloutWatch

/-- The nanoseconds of a second. -/
def nanosPerSecond : Nat := 1000000000

/-- A span of time that is not negative. -/
@[ext] structure Duration where
  seconds : Nat
  nanos : Nat := 0
  nanos_lt : nanos < 1000000000 := by decide
deriving DecidableEq, Repr

namespace Duration

/-- The largest number of seconds in a duration. -/
def maxSeconds : Nat := 18446744073709551615

/-- A duration of whole seconds. -/
def ofSeconds (seconds : Nat) : Duration := { seconds }

def zero : Duration := ofSeconds 0

/-- The duration of `seconds` and `nanos` together, where the nanoseconds may
exceed a second. There is none if the seconds then pass the largest number. -/
def ofParts? (seconds nanos : Nat) : Option Duration :=
  let total := seconds + nanos / 1000000000
  if total ≤ maxSeconds then
    some { seconds := total, nanos := nanos % 1000000000, nanos_lt := Nat.mod_lt _ (by decide) }
  else none

/-- The duration in nanoseconds. -/
def toNanos (d : Duration) : Nat :=
  d.seconds * nanosPerSecond + d.nanos

end Duration

end RolloutWatch
