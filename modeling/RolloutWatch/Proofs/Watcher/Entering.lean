import RolloutWatch.Proofs.Watcher.Collecting
import RolloutWatch.Proofs.Watcher.Reporting

/-!
# What enters the ledger

Whatever a describer lists, and in whatever order, a scan enters an event only if the
ledger does not know it yet. So the events that a run has entered are different from
each other, the ledger holds them and nothing else, and the snapshots report the
failures among them and nothing else.
-/

namespace RolloutWatch

namespace Watcher

/-- The events that an action enters into the ledger. They are those that the scan of a collect
looks at, if the collect gives a snapshot. -/
def entered (w : Watcher) (action : Action) : List ServiceEvent :=
  match action, (w.act action).result with
  | .owner (.collect (.described description)), .collected (.ok _) =>
    (Ledger.scan w.plan.target.createdAt w.ledger description.events).1
  | _, _ => []

/-- The events that a run enters into the ledger, in the order in which they are entered. -/
def scanned (w : Watcher) : List Action → List ServiceEvent
  | [] => []
  | action :: rest => w.entered action ++ (w.act action).watcher.scanned rest

theorem entered_of_unbuffered {w : Watcher} {action : Action}
    (unbuffered : (w.act action).result.snapshot? = none) : w.entered action = [] := by
  unfold entered
  split
  · next given =>
      rw [given] at unbuffered
      cases unbuffered
  · rfl

/-- An action records what a description lists, or it enters nothing. -/
theorem recorded_or_unbuffered (w : Watcher) (action : Action) :
    (∃ deployments events, (w.act action).watcher = (w.record deployments events).watcher ∧
      (w.act action).result.snapshot? = some (w.record deployments events).result ∧
      w.entered action = (Ledger.scan w.plan.target.createdAt w.ledger events).1) ∨
    ((w.act action).result.snapshot? = none ∧ w.entered action = [] ∧
      (w.act action).watcher.ledger = w.ledger) := by
  have happens := happens_act w action
  cases buffered : (w.act action).result.snapshot? with
  | none => exact .inr ⟨rfl, entered_of_unbuffered buffered, (happens.abreast buffered).ledger⟩
  | some snapshot =>
      obtain ⟨description, deployments, rfl, after, rfl⟩ := happens.recorded buffered
      have given := Outcome.snapshot?_eq_some.mp buffered
      refine .inl ⟨deployments, description.events, after, rfl, ?_⟩
      simp only [entered, given]

/-- The ledger gains the events that are entered, and each of them is one more member. -/
theorem members_act (w : Watcher) (action : Action) :
    (w.act action).watcher.ledger.members =
      w.ledger.members ++ (w.entered action).map (·.id) := by
  obtain ⟨deployments, events, after, _, entered⟩ | ⟨_, entered, same⟩ :=
    w.recorded_or_unbuffered action
  · rw [after, entered]
    exact Ledger.members_scan events w.ledger
  · rw [same, entered, List.map_nil, List.append_nil]

theorem concerns_of_mem_entered {w : Watcher} {action : Action} {event : ServiceEvent}
    (member : event ∈ w.entered action) : event.Concerns w.plan.target.createdAt := by
  obtain ⟨deployments, events, _, _, entered⟩ | ⟨_, entered, _⟩ :=
    w.recorded_or_unbuffered action
  · rw [entered] at member
    exact Ledger.concerns_of_mem_scan events w.ledger member
  · rw [entered] at member
    cases member

/-- A snapshot reports the failures among the events that are entered with it. -/
theorem failures_act (w : Watcher) (action : Action) :
    (w.act action).result.snapshot?.toList.flatMap (·.failures) =
      w.plan.failures (w.entered action) := by
  obtain ⟨deployments, events, _, buffered, entered⟩ | ⟨unbuffered, entered, _⟩ :=
    w.recorded_or_unbuffered action
  · rw [buffered, entered]
    exact List.append_nil _
  · rw [unbuffered, entered]
    rfl

/-- The ledger behind a run, by induction on the actions. -/
theorem members_run (actions : List Action) :
    ∀ w : Watcher, (w.run actions).1.ledger.members =
      w.ledger.members ++ (w.scanned actions).map (·.id) := by
  induction actions with
  | nil =>
      intro w
      exact (List.append_nil _).symm
  | cons action rest ih =>
      intro w
      rw [run_cons, ih, members_act, scanned, List.map_append, List.append_assoc]

theorem concerns_of_mem_scanned {event : ServiceEvent} (actions : List Action) :
    ∀ w : Watcher, event ∈ w.scanned actions → event.Concerns w.plan.target.createdAt := by
  induction actions with
  | nil =>
      intro w member
      cases member
  | cons action rest ih =>
      intro w member
      rw [scanned, List.mem_append] at member
      obtain now | later := member
      · exact concerns_of_mem_entered now
      · exact w.plan_act action ▸ ih _ later

/-- The failures in the snapshots of a run, by induction on the actions. -/
theorem failures_run (actions : List Action) :
    ∀ w : Watcher, (w.buffered actions).flatMap (·.failures) =
      w.plan.failures (w.scanned actions) := by
  induction actions with
  | nil =>
      intro w
      rfl
  | cons action rest ih =>
      intro w
      rw [buffered_cons, List.flatMap_append, failures_act, ih, plan_act, scanned,
        Plan.failures_append]

/-- A feed that keeps no order. It lists an identifier twice with different messages, an event that
is too old in front of one that is not, and after the close a known event behind one that was out of
reach before. -/
def disorderlyFeed : List Action :=
  let event (id message : String) (seconds : Int) : ServiceEvent :=
    { id := ⟨id⟩, message, createdAt := { seconds } }
  let listed (events : List ServiceEvent) : Action := .owner (.collect (.listing 1 events))
  [listed [event "e1" "task failed" 120, event "e2" "has started a task" 110,
      event "e1" "target is unhealthy" 130, event "e3" "image is missing" 140],
    .owner .subscribe, .owner .publish, .owner (.collect .unanswered),
    listed [event "e4" "image is missing" 100, event "e0" "task failed" 50,
      event "e3" "image is missing" 140],
    .owner .publish, .abandon, .owner .close,
    listed [event "e3" "unable to place a task" 100, event "e4" "task failed" 160]]

end Watcher

end RolloutWatch
