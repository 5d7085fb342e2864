import RolloutWatch.Snapshot.Json
import RolloutWatch.Text.Numeral

/-!
# Reading snapshots

Whoever is sent the JSON of a snapshot can read it again. A reader takes a value off the front of a
text and returns what follows it. There is one reader for each way of writing, and the reader of a
record goes through its fields in the order in which they are written. Spaces are not expected, as
none are written.
-/

namespace RolloutWatch

namespace Json

/-- Takes a value off the front of a text and returns what follows it. -/
abbrev Reader (α : Type) := StateT (List Char) Option α

variable {α : Type}

/-- Takes off characters that have to come next. -/
def skip (expected : List Char) : Reader Unit := fun text =>
  if expected.isPrefixOf text then some ((), text.drop expected.length) else none

def readText : Reader String
  | '"' :: text => (readQuoted text).map fun r => (String.ofList r.1, r.2)
  | _ => none

/-- Reads a number as far as there are digits. -/
def readNumber : Reader Nat := fun text =>
  if (text.takeWhile (·.isDigit)).isEmpty then none
  else some (Text.decimal (text.takeWhile (·.isDigit)), text.dropWhile (·.isDigit))

/-- Reads a field that follows a `mark`. -/
def readField (mark : Char) (name : String) (value : Reader α) : Reader α := do
  skip (mark :: quote name.toList ++ [':'])
  value

/-- Reads items up to the end of their list. There is a comma in front of each. An item that ends
with more text than it began with is refused. -/
def readItems (item : Reader α) : Reader (List α)
  | ']' :: rest => some ([], rest)
  | ',' :: text =>
    match item text with
    | none => none
    | some (value, after) =>
      if after.length ≤ text.length then
        (readItems item after).map fun r => (value :: r.1, r.2)
      else none
  | _ => none
termination_by text => text.length

/-- Reads a list. -/
def readList (item : Reader α) : Reader (List α)
  | '[' :: ']' :: rest => some ([], rest)
  | '[' :: text => readItems item (',' :: text)
  | _ => none

end Json

namespace Deployment

open Json in
def reader : Reader Deployment := do
  let status ← readField '\x7b' "status" readText
  let revision ← readField ',' "task_def_revision" readText
  let desiredCount ← readField ',' "desired_count" readNumber
  let runningCount ← readField ',' "running_count" readNumber
  let failedCount ← readField ',' "failed_count" readNumber
  let pendingCount ← readField ',' "pending_count" readNumber
  let rolloutState ← readField ',' "rollout_state" readText
  skip ['\x7d']
  return {
    status, revision, desiredCount, runningCount, failedCount, pendingCount, rolloutState }

end Deployment

namespace Snapshot

open Json in
def reader : Reader Snapshot := do
  let deployments ← readField '\x7b' "deployments" (readList Deployment.reader)
  let failures ← readField ',' "failure_events" (readList readText)
  skip ['\x7d']
  return { deployments, failures }

/-- Reads a snapshot that is the whole text. -/
def ofJson? (text : String) : Option Snapshot :=
  match reader text.toList with
  | some (snapshot, []) => some snapshot
  | _ => none

end Snapshot

end RolloutWatch
