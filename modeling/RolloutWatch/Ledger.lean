import RolloutWatch.Identifier.Set
import RolloutWatch.Service.Description

/-!
# The ledger of seen events

A ledger holds the identifiers of the events that have been looked at. Events
arrive newest first, so a scan of them ends at the first event that is older than
the deployment or that the ledger knows: all that follow have been seen before or
do not concern the deployment. The age of an event is looked at before the ledger.
-/

namespace RolloutWatch

/-- The identifiers of the events seen so far. A new ledger is empty. -/
abbrev Ledger := IdentifierSet .event

/-- What a ledger can be asked to do. -/
inductive LedgerAction where
  /-- Enters an event. The answer is whether it is new. -/
  | insert (event : Identifier .event)
  /-- Asks whether an event with this text has been entered. -/
  | contains (text : String)
deriving DecidableEq, Repr

namespace Ledger

/-- Performs one action, and gives its answer. -/
def act (ledger : Ledger) : LedgerAction → Ledger × Bool
  | .insert event => ledger.enter event
  | .contains text => (ledger, ledger.contains text)

/-- Performs actions one after the other. Each answer comes with the ledger behind it. -/
def run (ledger : Ledger) : List LedgerAction → List (Ledger × Bool)
  | [] => []
  | action :: rest =>
    let (after, answer) := ledger.act action
    (after, answer) :: run after rest

/-- The events that a scan looks at, and the ledger after it. -/
def scan (since : Instant) (ledger : Ledger) : List ServiceEvent → List ServiceEvent × Ledger
  | [] => ([], ledger)
  | event :: rest =>
    if event.createdAt < since || ledger.contains event.id.text then ([], ledger)
    else
      let (seen, after) := scan since (ledger.insert event.id) rest
      (event :: seen, after)

end Ledger

end RolloutWatch
