import RolloutWatch.Json.Quoted
import RolloutWatch.Snapshot.Basic

/-!
# Snapshots as JSON

A snapshot is written as one record without spaces. The fields of a record have
a fixed order.
-/

namespace RolloutWatch

namespace Json

/-- A number of JSON. -/
def number (n : Nat) : List Char :=
  Nat.toDigits 10 n

/-- The items of a list, separated by commas. -/
def separated : List (List Char) → List Char
  | [] => []
  | [item] => item
  | item :: rest => item ++ ',' :: separated rest

/-- A list of JSON, from the written items. -/
def list (items : List (List Char)) : List Char :=
  '[' :: separated items ++ [']']

/-- A field of a record, from its name and the written value. -/
def field (name : String) (value : List Char) : List Char :=
  quote name.toList ++ ':' :: value

/-- A record of JSON, from the written fields. -/
def record (fields : List (List Char)) : List Char :=
  '\x7b' :: separated fields ++ ['\x7d']

end Json

namespace Deployment

open Json in
def json (d : Deployment) : List Char :=
  record [
    field "status" (quote d.status.toList),
    field "task_def_revision" (quote d.revision.toList),
    field "desired_count" (number d.desiredCount),
    field "running_count" (number d.runningCount),
    field "failed_count" (number d.failedCount),
    field "pending_count" (number d.pendingCount),
    field "rollout_state" (quote d.rolloutState.toList)]

end Deployment

namespace Snapshot

open Json in
def json (s : Snapshot) : List Char :=
  record [
    field "deployments" (list (s.deployments.map Deployment.json)),
    field "failure_events" (list (s.failures.map fun text => quote text.toList))]

def toJson (s : Snapshot) : String :=
  String.ofList s.json

end Snapshot

end RolloutWatch
