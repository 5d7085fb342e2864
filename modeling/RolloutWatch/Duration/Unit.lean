import RolloutWatch.Duration.Basic

/-!
# Units of time

The units in which a duration is written, each with its names. A whole number of
units counts in seconds, or in nanoseconds for the units below a second. The
fraction of a unit counts in nanoseconds up to the minute and in seconds from the
hour on, and a nanosecond has no fractions.

A month is a twelfth of a year, and a year has 365.25 days.
-/

namespace RolloutWatch

/-- A unit of time. -/
inductive TimeUnit where
  | nanosecond
  | microsecond
  | millisecond
  | second
  | minute
  | hour
  | day
  | week
  | month
  | year
deriving DecidableEq, Repr

/-- A length of time in seconds or in nanoseconds. -/
inductive Measure where
  | nanos (count : Nat)
  | seconds (count : Nat)
deriving DecidableEq, Repr

namespace TimeUnit

def names : TimeUnit → List String
  | nanosecond => ["nanos", "nsec", "ns"]
  | microsecond => ["usec", "us", "µs"]
  | millisecond => ["millis", "msec", "ms"]
  | second => ["seconds", "second", "secs", "sec", "s"]
  | minute => ["minutes", "minute", "min", "mins", "m"]
  | hour => ["hours", "hour", "hr", "hrs", "h"]
  | day => ["days", "day", "d"]
  | week => ["weeks", "week", "wk", "wks", "w"]
  | month => ["months", "month", "M"]
  | year => ["years", "year", "yr", "yrs", "y"]

def all : List TimeUnit :=
  [nanosecond, microsecond, millisecond, second, minute, hour, day, week, month, year]

/-- The unit with this name. Letter case counts. -/
def ofName? (name : String) : Option TimeUnit :=
  all.find? fun unit => unit.names.contains name

/-- The seconds in a unit that is not shorter than one. -/
def seconds : TimeUnit → Nat
  | second => 1
  | minute => 60
  | hour => 3600
  | day => 86400
  | week => 604800
  | month => 2630016
  | year => 31557600
  | _ => 0

/-- What one unit measures when it is counted whole. -/
def whole : TimeUnit → Measure
  | nanosecond => .nanos 1
  | microsecond => .nanos 1000
  | millisecond => .nanos 1000000
  | unit => .seconds unit.seconds

/-- What one unit measures when a fraction of it is taken. -/
def divisible? : TimeUnit → Option Measure
  | nanosecond => none
  | microsecond => some (.nanos 1000)
  | millisecond => some (.nanos 1000000)
  | second => some (.nanos 1000000000)
  | minute => some (.nanos 60000000000)
  | unit => some (.seconds unit.seconds)

end TimeUnit

end RolloutWatch
