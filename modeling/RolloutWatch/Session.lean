import RolloutWatch.Watcher.Attend
import RolloutWatch.Watcher.Run

/-!
# Sessions

A session is a watcher in use: its owner asks it for one thing after the other, in
front of a describer that answers what it is told to answer. When nothing is
prepared for the describer it fails.

The owner may drop the watcher. From then on the owner gets nothing any more, and
the readers go on: their mailboxes are written to by nobody, and a gate without a
signal will never be signaled.
-/

namespace RolloutWatch

/-- What the describer replies when nothing is prepared for it. -/
def Reply.unprepared : Reply :=
  .failed (.requestFailed "no scripted response left")

/-- One request in a session. -/
inductive Request where
  | subscribe
  /-- Collects, with the reply of the describer if one is prepared. -/
  | collect (reply : Option Reply)
  /-- Publishes, with the turns that readers take whenever the publish waits. -/
  | publish (turns : List (List ReaderAction))
  | close
  | takeHandle
  | pending
  | knows (event : String)
  | warnings
  | target
  | calls
  | dropWatcher
  | reader (action : ReaderAction)
deriving Repr

/-- What a request gives. -/
inductive Answer where
  | subscribed (listener : Option Nat)
  /-- A snapshot and how long after it the next one is due, or nothing if that is beyond the
  latest instant. -/
  | collected (snapshot : Snapshot) (next : Option Duration)
  | uncollected (fault : CollectFault)
  | published (completed : Bool) (answers : List ReaderAnswer)
  | done
  | handle (number : Nat)
  | pending (snapshots : List Snapshot)
  | known (seen : Bool)
  | warnings (list : List Warning)
  | target (target : Target)
  | calls (list : List (Identifier .cluster × Identifier .service))
  | reader (answer : ReaderAnswer)
  /-- The watcher was dropped. -/
  | lost
deriving Repr

/-- A watcher in use. -/
structure Session where
  watcher : Watcher
  /-- The time at which everything happens. -/
  now : Instant
  /-- What the describer was asked to describe. -/
  calls : List (Identifier .cluster × Identifier .service) := []
  /-- The owner dropped the watcher. -/
  dropped : Bool := false
deriving Repr

/-- What a request in a session leads to. -/
structure Turn where
  session : Session
  answer : Answer
  logs : List LogEntry := []
deriving Repr

/-- The figures of a watcher that its owner can see at any time. -/
structure Status where
  pending : Nat
  subscribers : Nat
  seen : Nat
  done : Bool
  warnings : Nat
deriving DecidableEq, Repr

/-- The figures of a watcher. -/
def Watcher.status (w : Watcher) : Status where
  pending := w.pending.length
  subscribers := w.subscribers.length
  seen := w.ledger.size
  done := w.gate.signaled
  warnings := w.warnings.length

/-- The watcher goes away, and with it the writing ends of its mailboxes and the owner of its
gate. -/
def Watcher.drop (w : Watcher) : Watcher :=
  { w with subscribers := [], delivered := 0, gate := w.gate.dropOwner }

namespace Session

/-- Begins a session that watches as planned. -/
def start (plan : Plan) (now : Instant) : Session where
  watcher := .create plan
  now

/-- The figures of the watcher, unless it was dropped. -/
def status? (s : Session) : Option Status :=
  if s.dropped then none else some s.watcher.status

/-- Collects with a reply of the describer. -/
def collect (s : Session) (reply : Reply) : Turn :=
  let plan := s.watcher.plan
  let effect := s.watcher.collect reply
  { session := { s with
      watcher := effect.watcher
      calls := s.calls ++ [(plan.target.cluster, plan.target.service)] }
    answer :=
      match effect.result with
      | .ok snapshot =>
        .collected snapshot ((plan.nextCollect? s.now).map fun _ => plan.fetchInterval)
      | .error fault => .uncollected fault
    logs := effect.logs }

/-- Answers a request of the owner, who has the watcher. -/
def answer (s : Session) : Request → Turn
  | .subscribe =>
    let effect := s.watcher.subscribe
    { session := { s with watcher := effect.watcher }
      answer := .subscribed effect.result
      logs := effect.logs }
  | .collect reply => s.collect (reply.getD .unprepared)
  | .publish turns =>
    let attendance := s.watcher.publishAmid turns
    { session := { s with watcher := attendance.watcher }
      answer := .published attendance.completed attendance.answers
      logs := Move.logs attendance.moves }
  | .close =>
    let effect := s.watcher.close
    { session := { s with watcher := effect.watcher }, answer := .done, logs := effect.logs }
  | .takeHandle =>
    let (gate, number) := s.watcher.gate.giveHandle
    { session := { s with watcher := { s.watcher with gate } }, answer := .handle number }
  | .pending => { session := s, answer := .pending s.watcher.pending }
  | .knows event => { session := s, answer := .known (s.watcher.ledger.contains event) }
  | .warnings => { session := s, answer := .warnings s.watcher.warnings }
  | .target => { session := s, answer := .target s.watcher.plan.target }
  | .calls => { session := s, answer := .calls s.calls }
  | .dropWatcher =>
    { session := { s with watcher := s.watcher.drop, dropped := true }, answer := .done }
  | .reader action =>
    let (watcher, answer) := s.watcher.serve action
    { session := { s with watcher }, answer := .reader answer }

/-- Answers a request. Only readers get something after the watcher was dropped. -/
def step (s : Session) (request : Request) : Turn :=
  match request with
  | .reader action => s.answer (.reader action)
  | request =>
    if s.dropped then { session := s, answer := .lost } else s.answer request

/-- Answers requests one after the other. -/
def run (s : Session) : List Request → List Turn
  | [] => []
  | request :: rest =>
    let turn := s.step request
    turn :: turn.session.run rest

end Session

end RolloutWatch
