import RolloutWatch.Session

/-!
# Driving a watcher

The loop that a watcher is made for. Some listeners subscribe, and then the watcher
collects and publishes in turn until the gate is signaled. All listeners read
everything whenever a publish waits, so that each publish returns. A collect that
gives no snapshot ends the loop, and so does a limit on the number of collects. In
the end the watcher is closed and the listeners read what is left.
-/

namespace RolloutWatch

/-- Why the loop ended. -/
inductive DriveEnd where
  /-- The rollout is complete. -/
  | complete
  | fault (fault : CollectFault)
  /-- The watcher collected as often as it may. -/
  | limit
deriving DecidableEq, Repr

/-- What came of driving a watcher. -/
structure Drive where
  watcher : Watcher
  /-- How often the watcher collected, with success or not. -/
  collects : Nat
  ending : DriveEnd
  logs : List LogEntry
deriving Repr

namespace Watcher

/-- Adds a number of listeners, if mailboxes can be made for them. -/
def subscribeMany (w : Watcher) : Nat → Option Watcher
  | 0 => some w
  | n + 1 =>
    let effect := w.subscribe
    match effect.result with
    | none => none
    | some _ => effect.watcher.subscribeMany n

/-- The turn of readers in which every listener reads all that it can. -/
def drainAll (w : Watcher) : List ReaderAction :=
  (List.range w.mailboxes.length).map .drain

/-- Collects and publishes until the gate is signaled, a collect fails, or `limit` collects have
been made. -/
def loop (w : Watcher) : (limit : Nat) → List Reply → Drive
  | 0, _ =>
    { watcher := w
      collects := 0
      ending := if w.gate.signaled then .complete else .limit
      logs := [] }
  | limit + 1, replies =>
    if w.gate.signaled then { watcher := w, collects := 0, ending := .complete, logs := [] }
    else
      let effect := w.collect (replies.headD .unprepared)
      match effect.result with
      | .error fault =>
        { watcher := effect.watcher, collects := 1, ending := .fault fault, logs := effect.logs }
      | .ok _ =>
        let collected := effect.watcher
        let attendance :=
          collected.publishAmid (List.replicate collected.pending.length collected.drainAll)
        let later := attendance.watcher.loop limit replies.tail
        { later with
          collects := later.collects + 1
          logs := effect.logs ++ Move.logs attendance.moves ++ later.logs }

/-- Closes a watcher and lets every listener read what is left. -/
def finish (w : Watcher) : Effect Unit :=
  let effect := w.close
  let (after, _) := effect.watcher.serveAll effect.watcher.drainAll
  { effect with watcher := after }

end Watcher

/-- What each listener has read, and why there is nothing more to read. -/
def Drive.received (drive : Drive) : List (List Snapshot × ReadStop) :=
  drive.watcher.mailboxes.zipIdx.map fun (box, listener) =>
    (box.read, box.stop (drive.watcher.isRegistered listener))

/-- Drives a new watcher with some listeners, unless their mailboxes cannot be made. -/
def Drive.run? (plan : Plan) (listeners limit : Nat) (replies : List Reply) : Option Drive :=
  ((Watcher.create plan).subscribeMany listeners).map fun w =>
    let drive := w.loop limit replies
    let effect := drive.watcher.finish
    { drive with watcher := effect.watcher, logs := drive.logs ++ effect.logs }

end RolloutWatch
