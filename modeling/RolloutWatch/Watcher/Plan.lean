import RolloutWatch.Settings.Basic
import RolloutWatch.Target.Basic

/-!
# Plans

What a watcher is told once and for all: the rollout to watch, the keywords of
failures, the time between two observations, and how many unread snapshots a
mailbox takes, which is at least one.
-/

namespace RolloutWatch

/-- What to watch, and how. -/
structure Plan where
  target : Target
  keywords : Keywords := .default
  fetchInterval : Duration
  /-- How many unread snapshots a mailbox takes. -/
  capacity : Nat
  capacity_pos : 0 < capacity := by decide
deriving DecidableEq, Repr

namespace Plan

/-- The plan to watch a target with some settings. A capacity of zero counts as one. -/
def ofSettings (target : Target) (settings : Settings) : Plan where
  target
  keywords := settings.failureKeywords
  fetchInterval := settings.fetchInterval
  capacity := max 1 settings.listenerCapacity
  capacity_pos := Nat.lt_of_lt_of_le Nat.one_pos (Nat.le_max_left ..)

/-- When the next observation is due after one that ends now, or nothing if the interval leads
beyond the latest instant. -/
def nextCollect? (plan : Plan) (now : Instant) : Option Instant :=
  now.add? plan.fetchInterval

end Plan

end RolloutWatch
