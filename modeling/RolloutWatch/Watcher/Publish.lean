import RolloutWatch.Watcher.Basic

/-!
# Publishing

A publish empties the buffer. It offers the front snapshot to one subscriber after
the other, beginning at the place that `delivered` marks. A mailbox with room takes
it; a subscriber whose reading end is gone is passed over; at a full mailbox the
publish waits, and goes on from there when it is resumed. A snapshot that has been
offered to all leaves the buffer, and then the subscribers that are gone are
unregistered, each with a warning. A publish that begins at the first subscriber
unregisters those that are gone before anything is offered.

A publish that waits can be given up. Everything that it did stays as it is.
-/

namespace RolloutWatch

/-- One thing that happens in a publish. -/
inductive Move where
  /-- The mailbox of the listener took the front snapshot. -/
  | accepted (listener : Nat)
  /-- The reading end of the listener is gone, and the front snapshot is lost to it. -/
  | refused (listener : Nat)
  /-- The front snapshot left the buffer. -/
  | retired
  /-- The listener is written to no more, because its reading end is gone. -/
  | unregistered (listener : Nat)
deriving DecidableEq, Repr

namespace Move

/-- The warning that a move gives rise to. -/
def warning? : Move → Option Warning
  | unregistered listener => some (.listenerDropped listener)
  | _ => none

/-- The log entries of some moves. -/
def logs (moves : List Move) : List LogEntry :=
  (moves.filterMap warning?).map .warned

end Move

namespace Watcher

/-- Offers a snapshot to listeners in line, up to the first whose mailbox is full. There is one
move for each listener that was not waited for. -/
def offer (capacity : Nat) (snapshot : Snapshot) :
    List Nat → List Mailbox → List Mailbox × List Move
  | [], boxes => (boxes, [])
  | listener :: line, boxes =>
    match boxes[listener]? with
    | none =>
      let (after, moves) := offer capacity snapshot line boxes
      (after, .refused listener :: moves)
    | some box =>
      if !box.isListening then
        let (after, moves) := offer capacity snapshot line boxes
        (after, .refused listener :: moves)
      else if box.held.length < capacity then
        let (after, moves) :=
          offer capacity snapshot line (boxes.set listener (box.push snapshot))
        (after, .accepted listener :: moves)
      else (boxes, [])

/-- Unregisters the subscribers whose reading end is gone. -/
def prune (w : Watcher) : Watcher × List Move :=
  let moves := (w.subscribers.filter fun listener => !w.isListening listener).map .unregistered
  ({ w with
      subscribers := w.subscribers.filter w.isListening
      warnings := w.warnings ++ moves.filterMap Move.warning? },
    moves)

@[simp] theorem subscribers_prune (w : Watcher) :
    w.prune.1.subscribers = w.subscribers.filter w.isListening := rfl

@[simp] theorem delivered_prune (w : Watcher) : w.prune.1.delivered = w.delivered := rfl

@[simp] theorem warnings_prune (w : Watcher) :
    w.prune.1.warnings = w.warnings ++ w.prune.2.filterMap Move.warning? := rfl

/-- Publishes the snapshots of a buffer from the place on that the last publish reached. -/
def publishFrom (w : Watcher) : List Snapshot → Watcher × List Move
  | [] => ({ w with pending := [], publishing := false }, [])
  | snapshot :: rest =>
    let line := w.subscribers.drop w.delivered
    let (mailboxes, offers) := offer w.plan.capacity snapshot line w.mailboxes
    if offers.length < line.length then
      ({ w with
          mailboxes
          pending := snapshot :: rest
          delivered := w.delivered + offers.length
          publishing := true },
        offers)
    else
      let (pruned, removals) := prune { w with mailboxes, pending := rest, delivered := 0 }
      let (after, moves) := publishFrom pruned rest
      (after, offers ++ .retired :: removals ++ moves)

/-- Begins a publish. An empty buffer is left alone. -/
def publish (w : Watcher) : Watcher × List Move :=
  if w.pending.isEmpty then (w, [])
  else if w.delivered = 0 then
    let (pruned, removals) := w.prune
    let (after, moves) := pruned.publishFrom w.pending
    (after, removals ++ moves)
  else w.publishFrom w.pending

/-- Goes on with a publish that waits. -/
def resume (w : Watcher) : Watcher × List Move :=
  if w.publishing then w.publishFrom w.pending else (w, [])

/-- Gives up a publish that waits. -/
def abandon (w : Watcher) : Watcher :=
  { w with publishing := false }

end Watcher

end RolloutWatch
