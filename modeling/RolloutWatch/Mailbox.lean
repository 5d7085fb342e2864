import RolloutWatch.Snapshot.Basic

/-!
# Mailboxes

A mailbox carries snapshots from the watcher to one listener, in order. It has a
reading end, which the listener may close or drop at any time. A closed end takes
no further snapshots, and those that the mailbox holds can still be read. A
dropped end reads nothing more.

A mailbox also keeps what has been read from it, so that what was read followed by
what is held is everything it ever took, as long as the reading end is not dropped.
-/

namespace RolloutWatch

/-- What has become of the end that the listener reads from. -/
inductive ReadingEnd where
  | listening
  /-- The listener takes no further snapshots. -/
  | closed
  | dropped
deriving DecidableEq, Repr

/-- Why a read gives no snapshot. -/
inductive ReadStop where
  /-- There is none now, and there may be one later. -/
  | empty
  /-- There is none, and there will be none. -/
  | closed
  /-- The reading end was dropped. -/
  | dropped
deriving DecidableEq, Repr

/-- A queue of snapshots on their way to one listener. -/
structure Mailbox where
  /-- The snapshots that can be read, the next one first. -/
  held : List Snapshot := []
  /-- The snapshots that have been read, the first one first. -/
  read : List Snapshot := []
  readingEnd : ReadingEnd := .listening
deriving DecidableEq, Repr

namespace Mailbox

/-- The largest number of snapshots that a mailbox can be made for. -/
def largestCapacity : Nat := 2305843009213693951

/-- Whether the reading end takes snapshots. -/
def isListening (box : Mailbox) : Bool :=
  box.readingEnd == .listening

/-- Puts a snapshot behind those that the mailbox holds. -/
def push (box : Mailbox) (snapshot : Snapshot) : Mailbox :=
  { box with held := box.held ++ [snapshot] }

/-- Why nothing can be read from a mailbox that holds nothing, where `attached`
says whether somebody may still put snapshots into it. -/
def stop (box : Mailbox) (attached : Bool) : ReadStop :=
  match box.readingEnd with
  | .listening => if attached then .empty else .closed
  | .closed => .closed
  | .dropped => .dropped

/-- Reads the next snapshot. -/
def receive (box : Mailbox) (attached : Bool) : Mailbox × Except ReadStop Snapshot :=
  match box.held with
  | [] => (box, .error (box.stop attached))
  | snapshot :: held =>
    ({ box with held, read := box.read ++ [snapshot] }, .ok snapshot)

/-- Reads until there is nothing to read, and tells why there is nothing. -/
def drain (box : Mailbox) (attached : Bool) : Mailbox × List Snapshot × ReadStop :=
  ({ box with held := [], read := box.read ++ box.held }, box.held, box.stop attached)

/-- Closes the reading end. A dropped end stays dropped. -/
def closeReading (box : Mailbox) : Mailbox :=
  match box.readingEnd with
  | .dropped => box
  | _ => { box with readingEnd := .closed }

/-- Drops the reading end, with all that the mailbox holds. -/
def dropReading (box : Mailbox) : Mailbox :=
  { box with held := [], readingEnd := .dropped }

/-- The reading end was dropped. -/
def isDropped (box : Mailbox) : Bool :=
  box.readingEnd == .dropped

/-- All that the mailbox took and did not lose: what was read and what is held. -/
def taken (box : Mailbox) : List Snapshot :=
  box.read ++ box.held

@[simp] theorem taken_push (box : Mailbox) (snapshot : Snapshot) :
    (box.push snapshot).taken = box.taken ++ [snapshot] := by
  simp [push, taken]

@[simp] theorem taken_receive (box : Mailbox) (attached : Bool) :
    (box.receive attached).1.taken = box.taken := by
  unfold receive
  split
  · rfl
  · next same => simp [taken, same]

@[simp] theorem taken_drain (box : Mailbox) (attached : Bool) :
    (box.drain attached).1.taken = box.taken := by
  simp [drain, taken]

@[simp] theorem taken_closeReading (box : Mailbox) : box.closeReading.taken = box.taken := by
  unfold closeReading
  split <;> rfl

@[simp] theorem taken_dropReading (box : Mailbox) : box.dropReading.taken = box.read := by
  simp [dropReading, taken]

@[simp] theorem readingEnd_receive (box : Mailbox) (attached : Bool) :
    (box.receive attached).1.readingEnd = box.readingEnd := by
  unfold receive
  split <;> rfl

@[simp] theorem readingEnd_drain (box : Mailbox) (attached : Bool) :
    (box.drain attached).1.readingEnd = box.readingEnd := rfl

end Mailbox

end RolloutWatch
