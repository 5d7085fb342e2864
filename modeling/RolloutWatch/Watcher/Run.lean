import RolloutWatch.Watcher.Collect
import RolloutWatch.Watcher.Publish
import RolloutWatch.Watcher.Reader

/-!
# Runs of a watcher

Everything that can happen to a watcher, one action at a time, and what comes of
it. While a publish waits the watcher is taken: only readers act, and the publish
is resumed or given up. Whatever else is tried then is unavailable, and so is
resuming what does not wait.
-/

namespace RolloutWatch

/-- One action of the owner of a watcher. -/
inductive OwnerAction where
  | subscribe
  | collect (reply : Reply)
  | publish
  | close
  | takeHandle
deriving DecidableEq, Repr

/-- One action on a watcher. -/
inductive Action where
  | owner (action : OwnerAction)
  | resume
  | abandon
  | reader (action : ReaderAction)
deriving DecidableEq, Repr

/-- What an action gives. -/
inductive Outcome where
  /-- The number of the new listener, or nothing if its mailbox cannot be made. -/
  | subscribed (listener : Option Nat)
  | collected (result : Except CollectFault Snapshot)
  /-- What happened in the publish, and whether it returned. -/
  | published (moves : List Move) (completed : Bool)
  | abandoned
  | closed
  | handle (number : Nat)
  | reader (answer : ReaderAnswer)
  | unavailable
deriving Repr

namespace Watcher

/-- A new watcher. -/
def create (plan : Plan) : Watcher where
  plan

/-- The effect of a publish that came to a watcher after some moves. -/
def published (result : Watcher × List Move) : Effect Outcome where
  watcher := result.1
  result := .published result.2 !result.1.publishing
  logs := Move.logs result.2

/-- Performs one action of the owner, who has the watcher. -/
def perform (w : Watcher) : OwnerAction → Effect Outcome
  | .subscribe =>
    let effect := w.subscribe
    { effect with result := .subscribed effect.result }
  | .collect reply =>
    let effect := w.collect reply
    { effect with result := .collected effect.result }
  | .publish => published w.publish
  | .close =>
    let effect := w.close
    { effect with result := .closed }
  | .takeHandle =>
    let (gate, number) := w.gate.giveHandle
    { watcher := { w with gate }, result := .handle number }

/-- Performs one action. -/
def act (w : Watcher) : Action → Effect Outcome
  | .owner action =>
    if w.publishing then { watcher := w, result := .unavailable }
    else w.perform action
  | .resume =>
    if w.publishing then published w.resume
    else { watcher := w, result := .unavailable }
  | .abandon =>
    if w.publishing then { watcher := w.abandon, result := .abandoned }
    else { watcher := w, result := .unavailable }
  | .reader action =>
    let (after, answer) := w.serve action
    { watcher := after, result := .reader answer }

/-- Performs actions one after the other. There is one effect for each of them, in order. -/
def run (w : Watcher) : List Action → Watcher × List (Effect Outcome)
  | [] => (w, [])
  | action :: rest =>
    let effect := w.act action
    let (after, effects) := effect.watcher.run rest
    (after, effect :: effects)

end Watcher

end RolloutWatch
