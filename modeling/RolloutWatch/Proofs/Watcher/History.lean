import RolloutWatch.Proofs.Watcher.Reading
import RolloutWatch.Watcher.Run

/-!
# What a run has shown

The steps of a run are its actions, each with what it gave. Everything that can be
said about the past of a watcher is read off them: which snapshots were buffered,
how many of them have left the buffer, how many had left it when each listener
subscribed, and what each listener has read.

A fact about steps and watcher that every single action keeps holds after every run.
-/

namespace RolloutWatch

/-- An action and what it gave. -/
abbrev Step := Action × Outcome

namespace Outcome

/-- The snapshot that an action put into the buffer. -/
def snapshot? : Outcome → Option Snapshot
  | collected (.ok snapshot) => some snapshot
  | _ => none

theorem snapshot?_eq_some {outcome : Outcome} {snapshot : Snapshot} :
    outcome.snapshot? = some snapshot ↔ outcome = .collected (.ok snapshot) := by
  constructor
  · intro buffered
    cases outcome with
    | collected result =>
        cases result with
        | error fault => cases buffered
        | ok given =>
            cases buffered
            rfl
    | _ => cases buffered
  · rintro rfl
    rfl

/-- What happened in a publish. -/
def moves : Outcome → List Move
  | published moves _ => moves
  | _ => []

end Outcome

namespace Watcher

/-- The steps of a run. -/
def steps (w : Watcher) (actions : List Action) : List Step :=
  actions.zip ((w.run actions).2.map (·.result))

@[simp] theorem run_nil (w : Watcher) : w.run [] = (w, []) := rfl

theorem run_cons (w : Watcher) (action : Action) (rest : List Action) :
    w.run (action :: rest) =
      (((w.act action).watcher.run rest).1,
        w.act action :: ((w.act action).watcher.run rest).2) := rfl

@[simp] theorem steps_nil (w : Watcher) : w.steps [] = [] := rfl

theorem steps_cons (w : Watcher) (action : Action) (rest : List Action) :
    w.steps (action :: rest) =
      (action, (w.act action).result) :: (w.act action).watcher.steps rest := rfl

theorem run_append (w : Watcher) (first second : List Action) :
    w.run (first ++ second) =
      (((w.run first).1.run second).1, (w.run first).2 ++ ((w.run first).1.run second).2) := by
  induction first generalizing w with
  | nil => rfl
  | cons action rest ih => rw [List.cons_append, run_cons, ih, run_cons, List.cons_append]

/-- What a run logs. -/
def logs (w : Watcher) (actions : List Action) : List LogEntry :=
  (w.run actions).2.flatMap (·.logs)

@[simp] theorem logs_nil (w : Watcher) : w.logs [] = [] := rfl

theorem logs_cons (w : Watcher) (action : Action) (rest : List Action) :
    w.logs (action :: rest) = (w.act action).logs ++ (w.act action).watcher.logs rest := by
  rw [logs, run_cons, List.flatMap_cons, logs]

/-- What one action keeps about the steps so far and the watcher, a run keeps. -/
theorem run_induction {P : List Step → Watcher → Prop}
    (keeps : ∀ past w action, P past w →
      P (past ++ [(action, (w.act action).result)]) (w.act action).watcher)
    (past : List Step) {w : Watcher} (start : P past w) (actions : List Action) :
    P (past ++ w.steps actions) (w.run actions).1 := by
  induction actions generalizing past w with
  | nil => simpa using start
  | cons action rest ih =>
      have later := ih _ (keeps past w action start)
      rwa [List.append_assoc, List.singleton_append, ← steps_cons] at later

/-- What one action keeps about the watcher, a run keeps. -/
theorem run_invariant {P : Watcher → Prop}
    (keeps : ∀ w action, P w → P (w.act action).watcher)
    {w : Watcher} (start : P w) (actions : List Action) : P (w.run actions).1 :=
  run_induction (P := fun _ w => P w) (fun _ w action => keeps w action) [] start actions

end Watcher

/-- The past of a watcher. -/
structure History where
  /-- The snapshots that were ever buffered, the oldest first. -/
  buffered : List Snapshot := []
  /-- How many snapshots have left the buffer. -/
  retired : Nat := 0
  /-- For each listener, how many snapshots had left the buffer when it subscribed. -/
  starts : List Nat := []
  /-- What each listener has read, the first snapshot first. -/
  readings : Nat → List Snapshot := fun _ => []

namespace History

/-- Notes a snapshot that was buffered. -/
def buffer (h : History) (snapshot : Snapshot) : History :=
  { h with buffered := h.buffered ++ [snapshot] }

/-- Notes the snapshots that left the buffer in some moves of a publish. -/
def publish (h : History) (moves : List Move) : History :=
  { h with retired := h.retired + moves.count .retired }

/-- Notes that a listener subscribed. -/
def subscribe (h : History) : History :=
  { h with starts := h.starts ++ [h.retired] }

/-- Notes what listeners read in an action of a reader. -/
def read (h : History) (action : ReaderAction) (answer : ReaderAnswer) : History :=
  { h with readings := fun listener => h.readings listener ++ action.readings listener answer }

/-- Notes one step. -/
def note (h : History) (step : Step) : History :=
  match step.2 with
  | .subscribed (some _) => h.subscribe
  | .collected (.ok snapshot) => h.buffer snapshot
  | .published moves _ => h.publish moves
  | .reader answer =>
    match step.1 with
    | .reader action => h.read action answer
    | _ => h
  | _ => h

/-- The past that some steps make. -/
def ofSteps (steps : List Step) : History :=
  steps.foldl note {}

theorem ofSteps_snoc (steps : List Step) (step : Step) :
    ofSteps (steps ++ [step]) = (ofSteps steps).note step := by
  rw [ofSteps, List.foldl_append]
  rfl

/-- A step buffers the snapshot that it gave, if it gave one. -/
theorem buffered_note (h : History) (step : Step) :
    (h.note step).buffered = h.buffered ++ step.2.snapshot?.toList := by
  obtain ⟨action, outcome⟩ := step
  cases outcome with
  | collected result => cases result <;> simp [note, buffer, Outcome.snapshot?]
  | subscribed listener => cases listener <;> simp [note, subscribe, Outcome.snapshot?]
  | reader answer => cases action <;> simp [note, read, Outcome.snapshot?]
  | published | abandoned | closed | handle | unavailable =>
      simp [note, publish, Outcome.snapshot?]

theorem buffered_foldl (steps : List Step) :
    ∀ h : History, (steps.foldl note h).buffered =
      h.buffered ++ steps.filterMap (·.2.snapshot?) := by
  induction steps with
  | nil =>
      intro h
      exact (List.append_nil _).symm
  | cons step rest ih =>
      intro h
      rw [List.foldl_cons, ih, buffered_note, List.append_assoc, List.filterMap_cons]
      cases step.2.snapshot? <;> rfl

theorem publish_append (h : History) (first second : List Move) :
    h.publish (first ++ second) = (h.publish first).publish second := by
  simp [publish, List.count_append, Nat.add_assoc]

/-- The snapshots from one place to another, in the order in which they were buffered. -/
def between (h : History) (start stop : Nat) : List Snapshot :=
  (h.buffered.take stop).drop start

/-- A listener that subscribed now has nothing to read. -/
@[simp] theorem between_self (h : History) (place : Nat) : h.between place place = [] := by
  rw [between, List.drop_eq_nil_iff, List.length_take]
  exact Nat.min_le_left ..

theorem between_succ {h : History} {start stop : Nat} {snapshot : Snapshot}
    (le : start ≤ stop) (next : h.buffered[stop]? = some snapshot) :
    h.between start (stop + 1) = h.between start stop ++ [snapshot] := by
  have inside := (List.getElem?_eq_some_iff.mp next).1
  rw [between, List.take_add_one, next, Option.toList_some, List.drop_append_of_le_length]
  · rfl
  · rw [List.length_take]
    omega

theorem between_prefix (h : History) (start stop : Nat) :
    h.between start stop <+: h.buffered.drop start := by
  rw [between, List.drop_take]
  exact List.take_prefix ..

theorem between_prefix_between (h : History) (start : Nat) {stop later : Nat}
    (le : stop ≤ later) : h.between start stop <+: h.between start later := by
  rw [between, between, List.drop_take, List.drop_take]
  exact List.take_prefix_take_left (Nat.sub_le_sub_right le start)

/-- More snapshots in the buffer do not change the earlier ones. -/
theorem between_buffer {h : History} {start stop : Nat} (snapshot : Snapshot)
    (inside : stop ≤ h.buffered.length) :
    (h.buffer snapshot).between start stop = h.between start stop := by
  rw [between, buffer, List.take_append_of_le_length inside, between]

end History

namespace Watcher

/-- The past of a run. -/
def history (w : Watcher) (actions : List Action) : History :=
  .ofSteps (w.steps actions)

/-- The snapshots that a run buffers, the oldest first. -/
def buffered (w : Watcher) (actions : List Action) : List Snapshot :=
  (w.history actions).buffered

/-- The snapshots that a run buffers are those that its steps gave. -/
theorem buffered_eq_filterMap (w : Watcher) (actions : List Action) :
    w.buffered actions = (w.steps actions).filterMap (·.2.snapshot?) :=
  History.buffered_foldl (w.steps actions) {}

@[simp] theorem buffered_nil (w : Watcher) : w.buffered [] = [] := rfl

theorem buffered_cons (w : Watcher) (action : Action) (rest : List Action) :
    w.buffered (action :: rest) =
      (w.act action).result.snapshot?.toList ++ (w.act action).watcher.buffered rest := by
  rw [buffered_eq_filterMap, buffered_eq_filterMap, steps_cons, List.filterMap_cons]
  cases (w.act action).result.snapshot? <;> rfl

end Watcher

/-- A rollout to look at short runs with. Each mailbox takes one snapshot. -/
def Plan.sample : Plan where
  target := { cluster := ⟨"prod"⟩, service := ⟨"frontend"⟩, createdAt := { seconds := 100 } }
  fetchInterval := .ofSeconds 4
  capacity := 1

/-- A description of it in which some of three tasks run. -/
def Reply.listing (running : Nat) (events : List ServiceEvent) : Reply :=
  .described {
    deployments := [{
      status := "PRIMARY"
      taskDefinition := "task-definition/frontend:7"
      desiredCount := 3
      runningCount := running
      pendingCount := 0
      failedCount := 0
      rolloutState := "IN_PROGRESS" }]
    events }

/-- Such a description without events. -/
def Reply.sample (running : Nat) : Reply :=
  .listing running []

end RolloutWatch
