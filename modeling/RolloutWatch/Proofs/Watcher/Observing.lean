import RolloutWatch.Proofs.Ledger.Fresh
import RolloutWatch.Proofs.Watcher.Completion
import RolloutWatch.Proofs.Watcher.Driving

/-!
# What a collect takes from a description

A collect copies the deployments, and of the events it takes the longest fresh beginning.
The main result puts together from these what is in the snapshot and what changes in the
watcher. All else stays as it is, also when the buffer is published half.
-/

namespace RolloutWatch

/-- A signal changes nothing at the gate besides. -/
theorem Gate.signal_frame (gate : Gate) :
    gate.signal.1 = { gate with signaled := gate.signal.1.signaled } := by
  unfold signal
  split <;> rfl

namespace Watcher

section Record

variable (w : Watcher) (deployments : List Deployment) {events fresh : List ServiceEvent}

/-- Recording touches nothing but the ledger, the buffer, and whether the gate is signaled. -/
theorem record_frame (events : List ServiceEvent) :
    let after := (w.record deployments events).watcher
    after = { w with
      gate := { w.gate with signaled := after.gate.signaled }
      ledger := after.ledger
      pending := w.pending ++ [(w.record deployments events).result] } := by
  intro after
  have gate : after.gate = { w.gate with signaled := after.gate.signaled } := by
    have same : after.gate = _ := w.gate_record deployments events
    rw [same]
    split
    · exact w.gate.signal_frame
    · rfl
  rw [← gate]
  rfl

/-- Of the events, only the longest fresh beginning counts. -/
theorem record_eq_of_longestFresh {events' : List ServiceEvent}
    (h : Ledger.LongestFresh w.plan.target.createdAt w.ledger events fresh)
    (h' : Ledger.LongestFresh w.plan.target.createdAt w.ledger events' fresh) :
    w.record deployments events = w.record deployments events' := by
  have same : w.observe deployments events = w.observe deployments events' := by
    rw [observe, observe, Ledger.scan_eq_of_longestFresh h h']
  rw [record, record, same]

theorem failures_record
    (h : Ledger.LongestFresh w.plan.target.createdAt w.ledger events fresh) :
    (w.record deployments events).result.failures =
      (fresh.filter fun event => w.plan.keywords.matchesText event.message).map (·.message) := by
  rw [h.eq_scan]
  exact List.filter_map

theorem members_record
    (h : Ledger.LongestFresh w.plan.target.createdAt w.ledger events fresh) :
    (w.record deployments events).watcher.ledger.members =
      w.ledger.members ++ fresh.map (·.id) := by
  rw [h.eq_scan]
  exact Ledger.members_scan events w.ledger

end Record

/-- Whatever happened before, a collect of a description that can be read gives a snapshot. Its
deployments are copies of the described ones, and its failures are those among the longest fresh
beginning of the events. This beginning is unique. Its identifiers enter the ledger, and what
follows it in the description has no effect. The gate is signaled if it was before or there is a
steady primary deployment. The snapshot is the last one of the buffer, and nothing else changes. -/
theorem collect_takes_fresh_events (plan : Plan) (actions : List Action)
    {description : ServiceDescription} (readable : description.IsReadable) :
    let w := ((create plan).run actions).1
    let after := (w.collect (.described description)).watcher
    ∃ fresh snapshot,
      Ledger.LongestFresh plan.target.createdAt w.ledger description.events fresh ∧
      (∀ other, Ledger.LongestFresh plan.target.createdAt w.ledger description.events other →
        other = fresh) ∧
      (w.collect (.described description)).result = .ok snapshot ∧
      List.Forall₂ Deployment.Copies snapshot.deployments description.deployments ∧
      snapshot.failures =
        (fresh.filter fun event => plan.keywords.matchesText event.message).map (·.message) ∧
      after.ledger.members = w.ledger.members ++ fresh.map (·.id) ∧
      (after.gate.signaled = true ↔ w.gate.signaled = true ∨ description.HasSteadyPrimary) ∧
      after = { w with
        gate := { w.gate with signaled := after.gate.signaled }
        ledger := after.ledger
        pending := w.pending ++ [snapshot] } ∧
      ∀ events, Ledger.LongestFresh plan.target.createdAt w.ledger events fresh →
        w.collect (.described { description with events }) =
          w.collect (.described description) := by
  intro w
  obtain ⟨deployments, read⟩ := Deployment.exists_ofDescriptions readable
  have same_plan : w.plan = plan := plan_run (create plan) actions
  have collected (events : List ServiceEvent) :
      w.collect (.described { description with events }) =
        { watcher := (w.record deployments events).watcher
          result := .ok (w.record deployments events).result
          logs := (w.record deployments events).logs } := by
    rw [collect, read]
  have scanned : Ledger.LongestFresh w.plan.target.createdAt w.ledger description.events _ :=
    Ledger.longestFresh_scan description.events w.ledger
  have shown : (w.record deployments description.events).result.Shows description :=
    Snapshot.shows_iff.mpr read
  rw [collected description.events, ← same_plan]
  refine ⟨_, _, scanned, fun other longest => longest.eq_scan, rfl, shown,
    failures_record w deployments scanned, members_record w deployments scanned, ?_,
    record_frame w deployments description.events, fun events longest => ?_⟩
  · rw [signaled_record, owned_run, Bool.and_true, Bool.or_eq_true, shown.isComplete_iff]
  · rw [collected events, record_eq_of_longestFresh w deployments longest scanned]

/-- A steady primary deployment behind one that is left over, and events of which the third repeats
the first. -/
def repeatedEvent : ServiceDescription :=
  let deployment (status task : String) (running : Nat) : DeploymentDescription :=
    { status, taskDefinition := "task-definition/" ++ task, desiredCount := 3
      runningCount := running, pendingCount := 0, failedCount := 1, rolloutState := "" }
  let event (id message : String) (seconds : Int) : ServiceEvent :=
    { id := ⟨id⟩, message, createdAt := { seconds } }
  { deployments := [deployment "ACTIVE" "frontend:6" 3, deployment "PRIMARY" "frontend:7:x" 3]
    events := [event "e3" "task failed" 140, event "e2" "has started a task" 150,
      event "e3" "target is unhealthy" 160, event "e4" "image is missing" 170] }

theorem parseRevision_repeatedEvent :
    TaskDefinition.parseRevision "task-definition/frontend:6" = .ok "6" ∧
      TaskDefinition.parseRevision "task-definition/frontend:7:x" = .ok "7" := by
  decide +kernel

theorem isReadable_repeatedEvent : repeatedEvent.IsReadable := by
  intro deployment member fault malformed
  obtain rfl | rfl := List.mem_pair.mp member
  · cases parseRevision_repeatedEvent.1.symm.trans malformed
  · cases parseRevision_repeatedEvent.2.symm.trans malformed

/-- The second revision is followed by a component that is left out. -/
theorem revisions_of_copies_repeatedEvent {deployments : List Deployment}
    (copies : List.Forall₂ Deployment.Copies deployments repeatedEvent.deployments) :
    deployments.map (·.revision) = ["6", "7"] := by
  obtain _ | ⟨first, _ | ⟨second, _ | _⟩⟩ := copies
  have six := Except.ok.inj (first.revision.symm.trans parseRevision_repeatedEvent.1)
  have seven := Except.ok.inj (second.revision.symm.trans parseRevision_repeatedEvent.2)
  simp only [List.map_cons, List.map_nil, six, seven]

/-- It is collected with one event in the ledger, while the front snapshot is half delivered. -/
theorem collect_takes_fresh_events_repeatedEvent :
    let seen : ServiceEvent := { id := ⟨"e1"⟩, message := "", createdAt := { seconds := 120 } }
    let actions := halfDelivered ++ [.owner (.collect (.listing 1 [seen]))]
    let w := ((create .sample).run actions).1
    let after := (w.collect (.described repeatedEvent)).watcher
    (w.delivered = 1 ∧ w.pending.length = 3 ∧ w.gate.signaled = false) ∧
      repeatedEvent.IsReadable ∧
      (∃ snapshot, (w.collect (.described repeatedEvent)).result = .ok snapshot ∧
        List.Forall₂ Deployment.Copies snapshot.deployments repeatedEvent.deployments ∧
        snapshot.deployments.map (·.revision) = ["6", "7"] ∧
        snapshot.failures = ["task failed"] ∧ after.pending = w.pending ++ [snapshot]) ∧
      after.ledger.members = [⟨"e1"⟩, ⟨"e3"⟩, ⟨"e2"⟩] ∧ after.gate.signaled = true ∧
      w.collect (.described { repeatedEvent with events := repeatedEvent.events.take 2 }) =
        w.collect (.described repeatedEvent) := by
  intro seen actions
  have collected := collect_takes_fresh_events .sample actions isReadable_repeatedEvent
  have began : (((create .sample).run actions).1.delivered = 1 ∧
      ((create .sample).run actions).1.pending.length = 3 ∧
      ((create .sample).run actions).1.gate.signaled = false) ∧
      ((create .sample).run actions).1.ledger.members = [⟨"e1"⟩] ∧
      (Ledger.scan Plan.sample.target.createdAt ((create .sample).run actions).1.ledger
        repeatedEvent.events).1 = repeatedEvent.events.take 2 := by
    decide +kernel
  -- What follows is true of every watcher in such a state.
  generalize ((create .sample).run actions).1 = w at *
  obtain ⟨state, known, scanned⟩ := began
  obtain ⟨fresh, snapshot, longest, _, given, copies, failures, members, signaled, frame, cut⟩ :=
    collected
  obtain rfl : fresh = repeatedEvent.events.take 2 := longest.eq_scan.trans scanned
  refine ⟨state, isReadable_repeatedEvent, ⟨snapshot, given, copies,
    revisions_of_copies_repeatedEvent copies, ?_, congrArg pending frame⟩, ?_,
    signaled.mpr (.inr ?_), cut _ longest.isFresh.longestFresh⟩
  · exact failures.trans (by decide +kernel)
  · rw [members, known]
    rfl
  · exact ⟨_, List.mem_cons_of_mem _ List.mem_cons_self, rfl, rfl⟩

end Watcher

end RolloutWatch
