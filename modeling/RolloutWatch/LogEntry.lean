import RolloutWatch.Service.Fault
import RolloutWatch.Warning

/-!
# Log entries

Everything that is worth a line in a log, as data. An entry has a level, a
message, and for some entries named fields.
-/

namespace RolloutWatch

/-- How much an entry matters. -/
inductive LogLevel where
  | debug
  | info
  | warn
deriving DecidableEq, Repr

/-- The value of a named field. -/
inductive LogValue where
  | text (value : String)
  | number (value : Nat)
deriving DecidableEq, Repr

/-- One event worth logging. -/
inductive LogEntry where
  /-- The settings are about to be read from the file at this path. -/
  | loadingSettings (path : String)
  | subscribedAfterClose
  | collectFailed (error : FetchError)
  /-- The rollout became complete. -/
  | desiredCountReached (cluster : Identifier .cluster) (service : Identifier .service)
  /-- A description was turned into a snapshot: its deployments, its new failure messages, and
  the size of the ledger afterwards. -/
  | collected (deployments failures seen : Nat)
  /-- The stream was closed with snapshots in the buffer. -/
  | closedWithUnpublished (count : Nat)
  | warned (warning : Warning)
deriving DecidableEq, Repr

namespace LogEntry

def level : LogEntry → LogLevel
  | collectFailed _ => .warn
  | warned _ => .warn
  | desiredCountReached .. => .info
  | _ => .debug

def message : LogEntry → String
  | loadingSettings path => "Loading streamer config from " ++ path
  | subscribedAfterClose => "subscribe after close, returning a closed listener"
  | collectFailed _ => "collect failed"
  | desiredCountReached cluster service =>
    "Primary deployment of " ++ service.text ++ " in " ++ cluster.text
      ++ " reached its desired count"
  | collected .. => "collected service description"
  | closedWithUnpublished count =>
    "closing with " ++ toString count ++ " unpublished snapshot(s)"
  | warned warning => warning.message

def fields : LogEntry → List (String × LogValue)
  | collectFailed error => [("error", .text error.message), ("kind", .text error.kind.label)]
  | collected deployments failures seen =>
    [("deployments", .number deployments), ("failures", .number failures),
      ("seen_events", .number seen)]
  | _ => []

end LogEntry

end RolloutWatch
