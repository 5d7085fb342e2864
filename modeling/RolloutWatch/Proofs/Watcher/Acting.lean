import RolloutWatch.Proofs.Watcher.Advance
import RolloutWatch.Watcher.Run

/-!
# What an action can do

`Happens w action after outcome` lists everything that an action on a watcher can
come to, with what must hold before and what is left behind. A statement about all
actions is proved by cases on it.
-/

namespace RolloutWatch

namespace Watcher

/-- What comes of an action. -/
inductive Happens (w : Watcher) : Action → Watcher → Outcome → Prop where
  | unavailable {action : Action} : Happens w action w .unavailable
  | refused (large : Mailbox.largestCapacity < w.plan.capacity) :
      Happens w (.owner .subscribe) w (.subscribed none)
  | late (closed : w.closed = true) :
      Happens w (.owner .subscribe) { w with mailboxes := w.mailboxes ++ [{}] }
        (.subscribed (some w.mailboxes.length))
  | registered (opened : w.closed = false) :
      Happens w (.owner .subscribe)
        { w with
          mailboxes := w.mailboxes ++ [{}]
          subscribers := w.subscribers ++ [w.nextIndex]
          nextIndex := w.nextIndex + 1 }
        (.subscribed (some w.mailboxes.length))
  | uncollected {reply : Reply} {fault : CollectFault}
      (failed : (w.collect reply).result = .error fault) :
      Happens w (.owner (.collect reply)) w (.collected (.error fault))
  | collected {description : ServiceDescription} {deployments : List Deployment}
      (read : Deployment.ofDescriptions description.deployments = .ok deployments) :
      Happens w (.owner (.collect (.described description)))
        (w.record deployments description.events).watcher
        (.collected (.ok (w.record deployments description.events).result))
  /-- A publish of an empty buffer. -/
  | nothing {action : Action} (empty : w.pending = []) :
      Happens w action { w with publishing := false } (.published [] true)
  | polled {action : Action} {result : Watcher × List Move}
      (waiting : w.pending ≠ []) (poll : Polled w result) :
      Happens w action result.1 (.published result.2 !result.1.publishing)
  | closedAgain (closed : w.closed = true) : Happens w (.owner .close) w .closed
  | closed (opened : w.closed = false) :
      Happens w (.owner .close) { w with subscribers := [], delivered := 0, closed := true }
        .closed
  | handle {gate : Gate} {number : Nat} (given : w.gate.giveHandle = (gate, number)) :
      Happens w (.owner .takeHandle) { w with gate } (.handle number)
  | abandoned : Happens w .abandon w.abandon .abandoned
  | served (action : ReaderAction) :
      Happens w (.reader action) (w.serve action).1 (.reader (w.serve action).2)

/-- A collect that does not succeed leaves the watcher as it was. -/
theorem watcher_collect_of_error {w : Watcher} {reply : Reply} {fault : CollectFault}
    (failed : (w.collect reply).result = .error fault) : (w.collect reply).watcher = w := by
  cases reply with
  | unanswered => rfl
  | failed => rfl
  | described description =>
      rw [collect] at failed ⊢
      cases read : Deployment.ofDescriptions description.deployments with
      | error => rfl
      | ok deployments =>
          rw [read] at failed
          cases failed

theorem happens_subscribe (w : Watcher) :
    Happens w (.owner .subscribe) w.subscribe.watcher (.subscribed w.subscribe.result) := by
  rw [subscribe]
  split
  · next large => exact .refused large
  · split
    · next closed => exact .late closed
    · next opened => exact .registered (Bool.eq_false_iff.mpr opened)

theorem happens_collect (w : Watcher) (reply : Reply) :
    Happens w (.owner (.collect reply)) (w.collect reply).watcher
      (.collected (w.collect reply).result) := by
  cases result : (w.collect reply).result with
  | error fault =>
      rw [watcher_collect_of_error result]
      exact .uncollected result
  | ok snapshot =>
      cases reply with
      | unanswered => cases result
      | failed => cases result
      | described description =>
          rw [collect] at result ⊢
          cases read : Deployment.ofDescriptions description.deployments with
          | error =>
              rw [read] at result
              cases result
          | ok deployments =>
              rw [read] at result
              cases result
              exact .collected read

theorem happens_publish {w : Watcher} (idle : w.publishing = false) {action : Action} :
    Happens w action w.publish.1 (.published w.publish.2 !w.publish.1.publishing) := by
  by_cases empty : w.pending = []
  · have unchanged : w.publish = ({ w with publishing := false }, []) := by
      rw [publish, if_pos (List.isEmpty_iff.mpr empty), ← idle]
    rw [unchanged]
    exact .nothing empty
  · exact .polled empty (polled_publish empty)

theorem happens_resume {w : Watcher} (publishing : w.publishing = true) {action : Action} :
    Happens w action w.resume.1 (.published w.resume.2 !w.resume.1.publishing) := by
  by_cases empty : w.pending = []
  · have unchanged : w.resume = ({ w with publishing := false }, []) := by
      rw [resume, if_pos publishing, empty, publishFrom, ← empty]
    rw [unchanged]
    exact .nothing empty
  · exact .polled empty (polled_resume empty publishing)

theorem happens_close (w : Watcher) :
    Happens w (.owner .close) w.close.watcher .closed := by
  rw [close]
  split
  · next closed => exact .closedAgain closed
  · next opened => exact .closed (Bool.eq_false_iff.mpr opened)

/-- Everything that can happen is listed. -/
theorem happens_act (w : Watcher) (action : Action) :
    Happens w action (w.act action).watcher (w.act action).result := by
  cases action with
  | owner action =>
      rw [act]
      split
      · exact .unavailable
      · next idle =>
          cases action with
          | subscribe => exact happens_subscribe w
          | collect reply => exact happens_collect w reply
          | publish => exact happens_publish (Bool.eq_false_iff.mpr idle)
          | close => exact happens_close w
          | takeHandle => exact .handle rfl
  | resume =>
      rw [act]
      split
      · next publishing => exact happens_resume publishing
      · exact .unavailable
  | abandon =>
      rw [act]
      split
      · exact .abandoned
      · exact .unavailable
  | reader action => exact .served action

end Watcher

end RolloutWatch
