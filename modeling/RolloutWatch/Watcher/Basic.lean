import RolloutWatch.Gate
import RolloutWatch.Ledger
import RolloutWatch.LogEntry
import RolloutWatch.Mailbox
import RolloutWatch.Watcher.Plan

/-!
# Watchers

A watcher collects snapshots of one rollout into a buffer and publishes them from
there to its subscribers. Listeners are numbered in the order in which they
subscribed, and each has a mailbox under its number. The subscribers are the
listeners whose mailbox the watcher still writes to.

`delivered` is a place in the list of subscribers. Those before it have the front
snapshot of the buffer, or cannot have it any more; those from there on do not have
it yet. A publish that was given up leaves this place behind for the next one.

This module also holds subscribing and closing. After the close no mailbox is
written to, and a listener that comes later finds its mailbox closed.
-/

namespace RolloutWatch

/-- The state of watching one rollout. -/
structure Watcher where
  plan : Plan
  /-- The mailbox of each listener. -/
  mailboxes : List Mailbox := []
  /-- The listeners that are written to, in the order of their registration. -/
  subscribers : List Nat := []
  /-- The number of the next listener to register. -/
  nextIndex : Nat := 0
  closed : Bool := false
  /-- Signaled when the rollout is complete. -/
  gate : Gate := {}
  ledger : Ledger := ∅
  /-- The collected snapshots that are not published, the oldest first. -/
  pending : List Snapshot := []
  /-- How many subscribers need not be offered the front snapshot again. -/
  delivered : Nat := 0
  /-- A publish is under way and waits for room in a mailbox. -/
  publishing : Bool := false
  /-- The warnings so far, the oldest first. -/
  warnings : List Warning := []
deriving Repr

/-- What an operation on a watcher leads to. -/
structure Effect (α : Type) where
  watcher : Watcher
  result : α
  logs : List LogEntry := []
deriving Repr

namespace Watcher

/-- Whether the reading end of a listener takes snapshots. -/
def isListening (w : Watcher) (listener : Nat) : Bool :=
  w.mailboxes[listener]?.any (·.isListening)

/-- Adds a listener and tells its number, or nothing if no mailbox can be made so large. -/
def subscribe (w : Watcher) : Effect (Option Nat) :=
  if Mailbox.largestCapacity < w.plan.capacity then { watcher := w, result := none }
  else if w.closed then
    { watcher := { w with mailboxes := w.mailboxes ++ [{}] }
      result := some w.mailboxes.length
      logs := [.subscribedAfterClose] }
  else
    { watcher := { w with
        mailboxes := w.mailboxes ++ [{}]
        subscribers := w.subscribers ++ [w.nextIndex]
        nextIndex := w.nextIndex + 1 }
      result := some w.mailboxes.length }

/-- Stops writing to all listeners, once and for all. -/
def close (w : Watcher) : Effect Unit :=
  if w.closed then { watcher := w, result := () }
  else
    { watcher := { w with subscribers := [], delivered := 0, closed := true }
      result := ()
      logs := if w.pending.isEmpty then [] else [.closedWithUnpublished w.pending.length] }

end Watcher

end RolloutWatch
