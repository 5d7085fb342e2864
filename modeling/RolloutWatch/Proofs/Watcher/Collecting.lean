import RolloutWatch.Proofs.Watcher.History
import RolloutWatch.Proofs.Watcher.Soundness

/-!
# What collecting depends on

A collect takes the plan, the ledger and the gate into account, and nothing else. Only
a collect that gives a snapshot changes the ledger or signals the gate. Watchers that
agree on these are `Abreast`: the same reply gives the same result in both of them and
leaves them abreast, and so does everything that listeners have to do with.
-/

namespace RolloutWatch

namespace Watcher

/-- Two watchers agree on all that a collect takes into account. -/
structure Abreast (a b : Watcher) : Prop where
  target : a.plan.target = b.plan.target
  keywords : a.plan.keywords = b.plan.keywords
  ledger : a.ledger = b.ledger
  signaled : a.gate.signaled = b.gate.signaled
  owned : a.gate.owned = b.gate.owned

namespace Abreast

variable {a b c : Watcher}

theorem refl (w : Watcher) : Abreast w w :=
  ⟨rfl, rfl, rfl, rfl, rfl⟩

theorem symm (h : Abreast a b) : Abreast b a :=
  ⟨h.target.symm, h.keywords.symm, h.ledger.symm, h.signaled.symm, h.owned.symm⟩

theorem trans (h₁ : Abreast a b) (h₂ : Abreast b c) : Abreast a c :=
  ⟨h₁.target.trans h₂.target, h₁.keywords.trans h₂.keywords, h₁.ledger.trans h₂.ledger,
    h₁.signaled.trans h₂.signaled, h₁.owned.trans h₂.owned⟩

/-- A publish has no part in collecting. -/
theorem of_undisturbed {w after : Watcher} (h : Undisturbed w after) : Abreast after w := by
  refine ⟨?_, ?_, h.ledger, ?_, ?_⟩
  · rw [h.plan]
  · rw [h.plan]
  · rw [h.gate]
  · rw [h.gate]

end Abreast

/-- Readers keep records at the gate, and they neither signal it nor take its owner away. -/
theorem serve_gate (w : Watcher) (action : ReaderAction) :
    (w.serve action).1.gate.signaled = w.gate.signaled ∧
      (w.serve action).1.gate.owned = w.gate.owned := by
  cases action with
  | pollWait wait =>
      simp only [serve, Gate.pollWait]
      split <;> exact ⟨rfl, rfl⟩
  | receive | drain | closeReading | dropReading | isDone | cloneHandle | wait | startWait =>
      exact ⟨rfl, rfl⟩

theorem Abreast.serve (w : Watcher) (action : ReaderAction) : Abreast (w.serve action).1 w := by
  obtain ⟨signaled, owned⟩ := w.serve_gate action
  obtain ⟨_, _, same, _⟩ := w.serve_frame action
  rw [same] at signaled owned ⊢
  exact ⟨rfl, rfl, rfl, signaled, owned⟩

section Happens

variable {w after : Watcher} {action : Action} {outcome : Outcome}

/-- Nothing changes the plan. -/
theorem Happens.plan_eq (happens : Happens w action after outcome) : after.plan = w.plan := by
  cases happens with
  | polled waiting poll => exact poll.frame.plan
  | served action =>
      obtain ⟨_, _, same, _⟩ := w.serve_frame action
      rw [same]
  | unavailable | refused | late | registered | uncollected | collected | nothing | closedAgain
  | closed | handle | abandoned => rfl

/-- What gives no snapshot is no matter for the next collect. -/
theorem Happens.abreast (happens : Happens w action after outcome)
    (unbuffered : outcome.snapshot? = none) : Abreast after w := by
  cases happens with
  | collected read => cases unbuffered
  | polled waiting poll => exact .of_undisturbed poll.frame
  | handle given =>
      cases given
      exact ⟨rfl, rfl, rfl, rfl, rfl⟩
  | served action => exact .serve w action
  | unavailable | refused | late | registered | uncollected | nothing | closedAgain | closed
  | abandoned => exact ⟨rfl, rfl, rfl, rfl, rfl⟩

/-- A snapshot is given by a collect, for a description whose deployments can be read. -/
theorem Happens.recorded (happens : Happens w action after outcome) {snapshot : Snapshot}
    (buffered : outcome.snapshot? = some snapshot) :
    ∃ description deployments, action = .owner (.collect (.described description)) ∧
      after = (w.record deployments description.events).watcher ∧
      snapshot = (w.record deployments description.events).result := by
  cases happens with
  | @collected description deployments read =>
      cases buffered
      exact ⟨description, deployments, rfl, rfl, rfl⟩
  | _ => cases buffered

end Happens

theorem plan_act (w : Watcher) (action : Action) : (w.act action).watcher.plan = w.plan :=
  (happens_act w action).plan_eq

/-- Nothing in a run changes the plan. -/
theorem plan_run (w : Watcher) (actions : List Action) : (w.run actions).1.plan = w.plan :=
  run_invariant (P := fun after => after.plan = w.plan)
    (fun after action same => (after.plan_act action).trans same) rfl actions

section Record

variable (w : Watcher) (deployments : List Deployment) (events : List ServiceEvent)

/-- The gate is signaled for a snapshot that is complete. -/
theorem gate_record :
    (w.record deployments events).watcher.gate =
      if (w.record deployments events).result.isComplete then w.gate.signal.1 else w.gate := by
  have complete : (w.record deployments events).result.isComplete =
      deployments.any fun d => d.isPrimary && d.isSteady := rfl
  rw [complete]
  exact apply_ite Prod.fst _ w.gate.signal (w.gate, false)

theorem signaled_record :
    (w.record deployments events).watcher.gate.signaled =
      (w.gate.signaled || ((w.record deployments events).result.isComplete && w.gate.owned)) := by
  rw [gate_record]
  split
  · next complete => rw [Gate.signaled_signal, complete, Bool.true_and]
  · next incomplete => rw [Bool.eq_false_iff.mpr incomplete, Bool.false_and, Bool.or_false]

theorem owned_record : (w.record deployments events).watcher.gate.owned = w.gate.owned := by
  rw [gate_record]
  split
  · unfold Gate.signal
    split <;> rfl
  · rfl

end Record

/-- Nobody takes the owner of the gate away. -/
theorem owned_act (w : Watcher) (action : Action) :
    (w.act action).watcher.gate.owned = w.gate.owned := by
  have happens := happens_act w action
  cases buffered : (w.act action).result.snapshot? with
  | none => exact (happens.abreast buffered).owned
  | some snapshot =>
      obtain ⟨description, deployments, _, after, _⟩ := happens.recorded buffered
      rw [after]
      exact w.owned_record deployments description.events

namespace Abreast

variable {a b : Watcher}

/-- Recording a description leaves watchers abreast. -/
theorem record (h : Abreast a b) (deployments : List Deployment) (events : List ServiceEvent) :
    (a.record deployments events).result = (b.record deployments events).result ∧
      Abreast (a.record deployments events).watcher (b.record deployments events).watcher := by
  have observed : a.observe deployments events = b.observe deployments events := by
    rw [observe, observe, h.target, h.keywords, h.ledger]
  have result : (a.record deployments events).result = (b.record deployments events).result :=
    congrArg Prod.fst observed
  have ledger : (a.record deployments events).watcher.ledger =
      (b.record deployments events).watcher.ledger := by
    show (a.observe deployments events).2 = (b.observe deployments events).2
    rw [observed]
  refine ⟨result, h.target, h.keywords, ledger, ?_, ?_⟩
  · rw [signaled_record, signaled_record, result, h.signaled, h.owned]
  · rw [owned_record, owned_record, h.owned]

/-- The same reply gives the same result, and leaves watchers abreast. -/
theorem collect (h : Abreast a b) (reply : Reply) :
    (a.collect reply).result = (b.collect reply).result ∧
      Abreast (a.collect reply).watcher (b.collect reply).watcher := by
  cases reply with
  | unanswered => exact ⟨rfl, h⟩
  | failed fault =>
      refine ⟨?_, h⟩
      rw [Watcher.collect, Watcher.collect, h.target]
  | described description =>
      rw [Watcher.collect, Watcher.collect]
      cases Deployment.ofDescriptions description.deployments with
      | error fault => exact ⟨rfl, h⟩
      | ok deployments =>
          obtain ⟨result, behind⟩ := h.record deployments description.events
          exact ⟨congrArg Except.ok result, behind⟩

end Abreast

end Watcher

end RolloutWatch
