import RolloutWatch.Duration.Basic
import RolloutWatch.Keywords

/-!
# Settings

How a rollout is watched: the time between two observations, the keywords of
failures, and how many snapshots a listener may leave unread. `Settings.flaw?` finds
what is wrong with settings, however they came about.
-/

namespace RolloutWatch

/-- The settings of a watcher. -/
@[ext] structure Settings where
  /-- The time from one observation to the next. -/
  fetchInterval : Duration := .ofSeconds 4
  failureKeywords : Keywords := .default
  /-- How many unread snapshots a listener holds. -/
  listenerCapacity : Nat := 1
deriving DecidableEq, Repr

/-- What may be wrong with settings. -/
inductive SettingsFlaw where
  | zeroInterval
  | zeroCapacity
  | emptyKeyword
deriving DecidableEq, Repr

def SettingsFlaw.message : SettingsFlaw → String
  | zeroInterval => "fetch_interval must be greater than zero"
  | zeroCapacity => "listener_capacity must be at least 1"
  | emptyKeyword => "failure_keywords cannot contain empty strings"

namespace Settings

def default : Settings := {}

/-- The first flaw of the settings, in the order of the fields but for the keywords, which come
last. -/
def flaw? (s : Settings) : Option SettingsFlaw :=
  if s.fetchInterval = .zero then some .zeroInterval
  else if s.listenerCapacity = 0 then some .zeroCapacity
  else if s.failureKeywords.toList.contains "" then some .emptyKeyword
  else none

end Settings

end RolloutWatch
