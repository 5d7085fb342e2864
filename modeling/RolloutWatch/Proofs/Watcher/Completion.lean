import RolloutWatch.Proofs.Watcher.Collecting
import RolloutWatch.Proofs.Watcher.Logging
import RolloutWatch.Session

/-!
# When the gate is signaled

The gate is signaled by the first collect that buffers a complete snapshot, and nothing
takes the signal back. So the gate tells at any time whether some snapshot so far was
complete, and every handle tells the same. The collect that signals the gate is the only
one that logs the completion.
-/

namespace RolloutWatch

namespace Watcher

/-- What a collect logs of the completion. -/
theorem info_record (w : Watcher) (deployments : List Deployment) (events : List ServiceEvent) :
    (w.record deployments events).logs.filter (·.level == .info) =
      if (w.record deployments events).result.isComplete && (w.gate.owned && !w.gate.signaled) then
        [.desiredCountReached w.plan.target.cluster w.plan.target.service]
      else [] := by
  rw [logs_record, List.filter_append]
  split <;> rfl

section Act

variable {w : Watcher} (owned : w.gate.owned = true) (action : Action)

include owned

/-- A snapshot that is complete signals the gate, and nothing else does. -/
theorem signaled_act :
    (w.act action).watcher.gate.signaled =
      (w.gate.signaled || (w.act action).result.snapshot?.any (·.isComplete)) := by
  have happens := happens_act w action
  cases buffered : (w.act action).result.snapshot? with
  | none =>
      rw [(happens.abreast buffered).signaled]
      exact (Bool.or_false _).symm
  | some snapshot =>
      obtain ⟨description, deployments, _, after, rfl⟩ := happens.recorded buffered
      rw [after, signaled_record, owned, Bool.and_true]
      rfl

/-- The completion is logged with a complete snapshot, unless the gate was signaled before. -/
theorem info_act :
    (w.act action).logs.filter (·.level == .info) =
      if !w.gate.signaled && (w.act action).result.snapshot?.any (·.isComplete) then
        [.desiredCountReached w.plan.target.cluster w.plan.target.service]
      else [] := by
  have logged := logged_act w action
  generalize (w.act action).result = outcome at logged ⊢
  generalize (w.act action).logs = entries at logged ⊢
  cases logged with
  | published moves completed =>
      have silent : (Move.logs moves).filter (·.level == .info) = [] := by
        rw [List.filter_eq_nil_iff]
        intro entry member
        obtain ⟨warning, _, rfl⟩ := List.mem_map.mp member
        exact Bool.false_ne_true
      rw [silent]
      simp [Outcome.snapshot?]
  | recorded deployments events =>
      rw [info_record, owned, Bool.true_and, Bool.and_comm]
      rfl
  | remarks unmoved unbuffered plain =>
      have silent : entries.filter (·.level == .info) = [] := by
        rw [List.filter_eq_nil_iff]
        intro entry member
        obtain level | ⟨level, _⟩ := LogEntry.level_of_isRemark (plain entry member)
        · rw [level]
          exact Bool.false_ne_true
        · rw [level]
          exact Bool.false_ne_true
      rw [silent, unbuffered]
      simp

end Act

/-- Whether the gate is signaled behind a run, by induction on the actions. -/
theorem signaled_run (actions : List Action) :
    ∀ {w : Watcher}, w.gate.owned = true →
      (w.run actions).1.gate.signaled =
        (w.gate.signaled || (w.buffered actions).any (·.isComplete)) := by
  induction actions with
  | nil =>
      intro w _
      exact (Bool.or_false _).symm
  | cons action rest ih =>
      intro w owned
      rw [run_cons, ih ((w.owned_act action).trans owned), signaled_act owned, buffered_cons,
        List.any_append, Bool.or_assoc]
      cases (w.act action).result.snapshot? <;> simp

/-- What a run logs of the completion, by induction on the actions. -/
theorem info_run (actions : List Action) :
    ∀ {w : Watcher}, w.gate.owned = true →
      (w.logs actions).filter (·.level == .info) =
        if !w.gate.signaled && (w.buffered actions).any (·.isComplete) then
          [.desiredCountReached w.plan.target.cluster w.plan.target.service]
        else [] := by
  induction actions with
  | nil =>
      intro w _
      simp
  | cons action rest ih =>
      intro w owned
      have here : ((w.act action).result.snapshot?.toList.any (·.isComplete)) =
          (w.act action).result.snapshot?.any (·.isComplete) := by
        cases (w.act action).result.snapshot? <;> simp
      rw [logs_cons, List.filter_append, info_act owned, ih ((w.owned_act action).trans owned),
        signaled_act owned, plan_act, buffered_cons, List.any_append, here]
      cases w.gate.signaled <;> cases (w.act action).result.snapshot?.any (·.isComplete) <;> simp

theorem owned_run (plan : Plan) (actions : List Action) :
    ((create plan).run actions).1.gate.owned = true :=
  run_invariant (P := fun w => w.gate.owned = true)
    (fun w action owned => (w.owned_act action).trans owned) rfl actions

theorem signaled_serveAll (turn : List ReaderAction) :
    ∀ w : Watcher, (w.serveAll turn).1.gate.signaled = w.gate.signaled := by
  induction turn with
  | nil =>
      intro w
      rfl
  | cons action rest ih =>
      intro w
      exact (ih _).trans (w.serve_gate action).1

/-- Two of three tasks run, then all of them, then fewer again, then again all. Handles are taken
from the beginning on, a collect fails, and a publish waits and is given up. -/
def completedTwice : List Action :=
  [.owner .takeHandle, .owner .subscribe, .owner (.collect (.sample 2)),
    .owner (.collect .unanswered), .owner (.collect (.sample 3)), .reader (.cloneHandle 0),
    .owner .publish, .owner (.collect (.sample 3)), .abandon, .owner (.collect (.sample 1)),
    .owner (.collect (.sample 3))]

end Watcher

end RolloutWatch
