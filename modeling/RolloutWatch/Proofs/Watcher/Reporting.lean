import RolloutWatch.Proofs.Ledger.Feed
import RolloutWatch.Proofs.Watcher.History
import RolloutWatch.Proofs.Watcher.Soundness

/-!
# What a watcher reports

Only collects that give a snapshot enter events into the ledger, and each of them
reports the failures among the events that its scan finds. Over a run the ledger is
therefore what scanning their responses in turn leaves behind. Where the describer
lists the newest events of a growing history, every failure that comes in sight is
reported once, by the first snapshot that could.
-/

namespace RolloutWatch

/-- The failures that some events report. -/
def Plan.failures (plan : Plan) (events : List ServiceEvent) : List String :=
  (events.map (·.message)).filter plan.keywords.matchesText

theorem Plan.failures_append (plan : Plan) (first second : List ServiceEvent) :
    plan.failures (first ++ second) = plan.failures first ++ plan.failures second := by
  rw [failures, List.map_append, List.filter_append, failures, failures]

/-- The events that the describer listed in a collect that gave a snapshot, and the snapshot. -/
def observation? (step : Step) : Option (List ServiceEvent × Snapshot) :=
  match step.2 with
  | .collected (.ok snapshot) =>
    match step.1 with
    | .owner (.collect (.described description)) => some (description.events, snapshot)
    | _ => none
  | _ => none

/-- The observations in some steps, in order. -/
def observations (steps : List Step) : List (List ServiceEvent × Snapshot) :=
  steps.filterMap observation?

theorem observations_snoc (steps : List Step) (step : Step) :
    observations (steps ++ [step]) = observations steps ++ (observation? step).toList := by
  rw [observations, List.filterMap_append, observations]
  cases observed : observation? step with
  | none => rw [List.filterMap_cons_none observed]; rfl
  | some observation => rw [List.filterMap_cons_some observed]; rfl

namespace Watcher

/-- The ledger and the failures in the snapshots follow from the events that were listed. -/
structure Reported (plan : Plan) (log : List (List ServiceEvent × Snapshot)) (w : Watcher) :
    Prop where
  unchanged : w.plan = plan
  ledger : w.ledger = Ledger.after plan.target.createdAt (log.map (·.1))
  failures : ∀ place response snapshot, log[place]? = some (response, snapshot) →
    snapshot.failures = plan.failures (Ledger.scan plan.target.createdAt
      (Ledger.after plan.target.createdAt ((log.map (·.1)).take place)) response).1

namespace Reported

variable {plan : Plan} {log : List (List ServiceEvent × Snapshot)} {w after : Watcher}

theorem of_same (h : Reported plan log w) (same_plan : after.plan = w.plan)
    (same_ledger : after.ledger = w.ledger) : Reported plan log after :=
  ⟨same_plan.trans h.unchanged, same_ledger.trans h.ledger, h.failures⟩

/-- A collect that gives a snapshot scans one more response. -/
theorem record (h : Reported plan log w) (deployments : List Deployment)
    (events : List ServiceEvent) :
    Reported plan (log ++ [(events, (w.record deployments events).result)])
      (w.record deployments events).watcher := by
  have ledger : (w.record deployments events).watcher.ledger =
      (Ledger.scan w.plan.target.createdAt w.ledger events).2 := rfl
  have failures : (w.record deployments events).result.failures =
      w.plan.failures (Ledger.scan w.plan.target.createdAt w.ledger events).1 := rfl
  rw [h.unchanged, h.ledger] at ledger failures
  refine ⟨h.unchanged, ?_, ?_⟩
  · rw [List.map_append, List.map_singleton, Ledger.after_snoc]
    exact ledger
  · intro place response snapshot here
    rw [List.map_append]
    obtain old | new := Nat.lt_or_ge place log.length
    · rw [List.getElem?_append_left old] at here
      rw [List.take_append_of_le_length (by simpa using Nat.le_of_lt old)]
      exact h.failures place response snapshot here
    · have inside := (List.getElem?_eq_some_iff.mp here).1
      obtain rfl : place = log.length := by
        rw [List.length_append, List.length_singleton] at inside
        omega
      rw [List.getElem?_concat_length] at here
      cases here
      rw [List.take_left' (List.length_map _)]
      exact failures

end Reported

theorem Happens.reported {plan : Plan} {past : List Step} {w after : Watcher} {action : Action}
    {outcome : Outcome} (happens : Happens w action after outcome)
    (h : Reported plan (observations past) w) :
    Reported plan (observations (past ++ [(action, outcome)])) after := by
  rw [observations_snoc]
  have silent : Reported plan (observations past ++ []) w := (List.append_nil _).symm ▸ h
  cases happens with
  | unavailable | refused | uncollected | closedAgain | late | registered | nothing | closed
  | handle | abandoned => exact silent.of_same rfl rfl
  | collected => exact h.record _ _
  | polled waiting poll =>
      exact silent.of_same poll.frame.plan poll.frame.ledger
  | served action =>
      obtain ⟨_, _, same, _⟩ := w.serve_frame action
      apply silent.of_same <;> rw [same]

theorem reported_run (plan : Plan) (actions : List Action) :
    Reported plan (observations ((create plan).steps actions)) ((create plan).run actions).1 := by
  have start : Reported plan (observations []) (create plan) := ⟨rfl, rfl, nofun⟩
  have keeps : ∀ past w action, Reported plan (observations past) w →
      Reported plan (observations (past ++ [(action, (w.act action).result)]))
        (w.act action).watcher :=
    fun past w action h => (happens_act w action).reported h
  exact run_induction keeps [] start actions

/-- Six events, of which the first is older than the deployment. -/
def sampleEvents : List ServiceEvent :=
  [{ id := ⟨"e0"⟩, message := "task failed to start", createdAt := { seconds := 50 } },
    { id := ⟨"e1"⟩, message := "target is unhealthy", createdAt := { seconds := 100 } },
    { id := ⟨"e2"⟩, message := "unable to place a task", createdAt := { seconds := 110 } },
    { id := ⟨"e3"⟩, message := "has started a task", createdAt := { seconds := 110 } },
    { id := ⟨"e4"⟩, message := "target is unhealthy", createdAt := { seconds := 120 } },
    { id := ⟨"e5"⟩, message := "image is missing", createdAt := { seconds := 130 } }]

/-- The events as they were when they were listed. -/
def sampleHistories : List (List ServiceEvent) :=
  [sampleEvents.take 2, sampleEvents.take 5, sampleEvents]

/-- A run in which the two newest events are listed. One event goes out of sight before it is
listed, two collects fail, and a publish is given up. -/
def slidingFeed : List Action :=
  let observed (running : Nat) (history : List ServiceEvent) : Action :=
    .owner (.collect (.listing running (newestFirst (some 2) history)))
  [.owner (.collect .unanswered), observed 0 (sampleEvents.take 2), .owner .subscribe,
    .owner (.collect (.failed (.throttled "rate exceeded"))), observed 1 (sampleEvents.take 5),
    .owner .publish, .abandon, observed 2 sampleEvents]

end Watcher

end RolloutWatch
