import RolloutWatch.Watcher.Basic

/-!
# What readers do

Readers hold the reading ends of mailboxes and the handles of the gate. They act at
any time, also while a publish waits and after the watcher itself is gone.
-/

namespace RolloutWatch

/-- One action of a reader. -/
inductive ReaderAction where
  | receive (listener : Nat)
  /-- Reads until there is nothing to read. -/
  | drain (listener : Nat)
  | closeReading (listener : Nat)
  | dropReading (listener : Nat)
  | isDone (handle : Nat)
  | cloneHandle (handle : Nat)
  /-- Polls a new wait once and forgets it. -/
  | wait (handle : Nat)
  /-- Polls a new wait once and keeps it. -/
  | startWait (handle : Nat)
  | pollWait (wait : Nat)
deriving DecidableEq, Repr

/-- What a reader gets. -/
inductive ReaderAnswer where
  | received (result : Except ReadStop Snapshot)
  | drained (snapshots : List Snapshot) (stop : ReadStop)
  /-- Whether the reading end was still there. -/
  | changed (present : Bool)
  | done (signaled : Bool)
  | handle (number : Nat)
  | waited (status : WaitStatus)
deriving Repr

namespace Watcher

/-- The mailbox of a listener, or a lost one if there is no such listener. -/
def mailbox (w : Watcher) (listener : Nat) : Mailbox :=
  w.mailboxes[listener]?.getD { readingEnd := .dropped }

/-- Whether the watcher still writes to a listener. -/
def isRegistered (w : Watcher) (listener : Nat) : Bool :=
  w.subscribers.contains listener

/-- Puts another mailbox in the place of a listener's. -/
def setMailbox (w : Watcher) (listener : Nat) (box : Mailbox) : Watcher :=
  { w with mailboxes := w.mailboxes.set listener box }

/-- Lets a reader act. -/
def serve (w : Watcher) : ReaderAction → Watcher × ReaderAnswer
  | .receive listener =>
    let (box, result) := (w.mailbox listener).receive (w.isRegistered listener)
    (w.setMailbox listener box, .received result)
  | .drain listener =>
    let (box, snapshots, stop) := (w.mailbox listener).drain (w.isRegistered listener)
    (w.setMailbox listener box, .drained snapshots stop)
  | .closeReading listener =>
    let box := w.mailbox listener
    (w.setMailbox listener box.closeReading, .changed !box.isDropped)
  | .dropReading listener =>
    let box := w.mailbox listener
    (w.setMailbox listener box.dropReading, .changed !box.isDropped)
  | .isDone _ => (w, .done w.gate.signaled)
  | .cloneHandle _ =>
    let (gate, number) := w.gate.giveHandle
    ({ w with gate }, .handle number)
  | .wait _ => (w, .waited w.gate.waitStatus)
  | .startWait _ =>
    let (gate, status) := w.gate.startWait
    ({ w with gate }, .waited status)
  | .pollWait wait =>
    let (gate, status) := w.gate.pollWait wait
    ({ w with gate }, .waited status)

end Watcher

end RolloutWatch
