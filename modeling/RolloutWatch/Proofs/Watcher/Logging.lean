import RolloutWatch.Proofs.Watcher.History

/-!
# What an action logs

A publish logs the warnings that its moves give rise to, and a collect that gives a
snapshot logs that it did, and the completion of the rollout if it is the first to see
it. Whatever else is logged is a remark that tells of neither.
-/

namespace RolloutWatch

namespace LogEntry

/-- The entry tells of a collect that failed. -/
def isCollectFailure : LogEntry → Bool
  | collectFailed _ => true
  | _ => false

/-- The entry is of the level of warnings, and not for a collect that failed. -/
def isWarning (entry : LogEntry) : Bool :=
  entry.level == .warn && !entry.isCollectFailure

/-- The entry tells neither of a warning nor of the completion of the rollout. -/
def isRemark : LogEntry → Bool
  | desiredCountReached .. => false
  | warned _ => false
  | _ => true

/-- A remark is of no more than the lowest level, unless it is about a collect that failed. -/
theorem level_of_isRemark {entry : LogEntry} (remark : entry.isRemark = true) :
    entry.level = .debug ∨ entry.level = .warn ∧ entry.isCollectFailure = true := by
  cases entry with
  | loadingSettings | subscribedAfterClose | collected | closedWithUnpublished => exact .inl rfl
  | collectFailed => exact .inr ⟨rfl, rfl⟩
  | desiredCountReached | warned => cases remark

theorem isWarning_of_isRemark {entry : LogEntry} (remark : entry.isRemark = true) :
    entry.isWarning = false := by
  obtain level | ⟨_, failure⟩ := level_of_isRemark remark
  · rw [isWarning, level]
    rfl
  · rw [isWarning, failure, Bool.not_true, Bool.and_false]

end LogEntry

namespace Watcher

/-- A collect that gives a snapshot tells of the completion if its signal is the first. -/
theorem logs_record (w : Watcher) (deployments : List Deployment) (events : List ServiceEvent) :
    let effect := w.record deployments events
    effect.logs =
      (if effect.result.isComplete && (w.gate.owned && !w.gate.signaled) then
        [.desiredCountReached w.plan.target.cluster w.plan.target.service] else []) ++
      [.collected deployments.length effect.result.failures.length effect.watcher.ledger.size] := by
  intro effect
  have first : (if effect.result.isComplete then w.gate.signal else (w.gate, false)).2 =
      (effect.result.isComplete && (w.gate.owned && !w.gate.signaled)) := by
    cases effect.result.isComplete with
    | false => rfl
    | true => exact w.gate.signal_snd
  rw [← first]
  rfl

/-- What is logged with an outcome. -/
inductive Logged (w : Watcher) : Outcome → List LogEntry → Prop where
  | published (moves : List Move) (completed : Bool) :
      Logged w (.published moves completed) (Move.logs moves)
  | recorded (deployments : List Deployment) (events : List ServiceEvent) :
      Logged w (.collected (.ok (w.record deployments events).result))
        (w.record deployments events).logs
  | remarks {outcome : Outcome} {entries : List LogEntry}
      (unmoved : outcome.moves = [])
      (unbuffered : outcome.snapshot? = none)
      (plain : ∀ entry ∈ entries, entry.isRemark = true) :
      Logged w outcome entries

theorem logged_subscribe (w : Watcher) :
    Logged w (.subscribed w.subscribe.result) w.subscribe.logs := by
  refine .remarks rfl rfl ?_
  rw [subscribe]
  split
  · nofun
  · split
    · intro entry member
      rw [List.mem_singleton.mp member]
      rfl
    · nofun

theorem logged_collect (w : Watcher) (reply : Reply) :
    Logged w (.collected (w.collect reply).result) (w.collect reply).logs := by
  cases reply with
  | unanswered => exact .remarks rfl rfl nofun
  | failed fault =>
      refine .remarks rfl rfl ?_
      intro entry member
      rw [List.mem_singleton.mp member]
      rfl
  | described description =>
      rw [collect]
      cases Deployment.ofDescriptions description.deployments with
      | error fault => exact .remarks rfl rfl nofun
      | ok deployments => exact .recorded deployments description.events

theorem logged_close (w : Watcher) : Logged w .closed w.close.logs := by
  refine .remarks rfl rfl ?_
  rw [close]
  split
  · nofun
  · intro entry member
    dsimp only at member
    split at member
    · cases member
    · rw [List.mem_singleton.mp member]
      rfl

/-- What an action logs goes with what it gives. -/
theorem logged_act (w : Watcher) (action : Action) :
    Logged w (w.act action).result (w.act action).logs := by
  cases action with
  | owner action =>
      rw [act]
      split
      · exact .remarks rfl rfl nofun
      · cases action with
        | subscribe => exact w.logged_subscribe
        | collect reply => exact w.logged_collect reply
        | publish => exact .published _ _
        | close => exact w.logged_close
        | takeHandle => exact .remarks rfl rfl nofun
  | resume =>
      rw [act]
      split
      · exact .published _ _
      · exact .remarks rfl rfl nofun
  | abandon =>
      rw [act]
      split <;> exact .remarks rfl rfl nofun
  | reader action => exact .remarks rfl rfl nofun

/-- The warnings that an action logs are those that its moves give rise to, in order. -/
theorem warnings_logged (w : Watcher) (action : Action) :
    (w.act action).logs.filter (·.isWarning) =
      ((w.act action).result.moves.filterMap Move.warning?).map .warned := by
  have logged := logged_act w action
  generalize (w.act action).result = outcome at logged ⊢
  generalize (w.act action).logs = entries at logged ⊢
  cases logged with
  | published moves completed =>
      refine List.filter_eq_self.mpr ?_
      intro entry member
      obtain ⟨warning, _, rfl⟩ := List.mem_map.mp member
      rfl
  | recorded deployments events =>
      rw [logs_record, List.filter_append]
      split <;> rfl
  | remarks unmoved unbuffered plain =>
      rw [unmoved]
      refine List.filter_eq_nil_iff.mpr ?_
      intro entry member
      rw [LogEntry.isWarning_of_isRemark (plain entry member)]
      exact Bool.false_ne_true

end Watcher

end RolloutWatch
