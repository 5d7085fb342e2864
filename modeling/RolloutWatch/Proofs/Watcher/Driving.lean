import RolloutWatch.Proofs.Snapshot.Copying
import RolloutWatch.Proofs.Watcher.Closing
import RolloutWatch.Proofs.Watcher.Erasure
import RolloutWatch.Proofs.Watcher.Rounds

/-!
# The loop that a watcher is made for

The owner looks at the gate, and as long as it is not signaled it collects and publishes.
`driving` is the list of actions that comes of this, for given replies of the describer and
for any schedule of what readers do at every place where the owner has to wait. It ends
when the gate is signaled, when a collect gives no snapshot, or with a publish that never
returns.

A description with a steady primary deployment signals the gate before its snapshot enters
the buffer. The publish of the same round still delivers it, and the next look at the gate
ends the loop.
-/

namespace RolloutWatch

/-- Every task definition can be read. -/
def ServiceDescription.IsReadable (d : ServiceDescription) : Prop :=
  ∀ deployment ∈ d.deployments, ∀ fault, ¬Deployment.Malformed deployment fault

/-- Descriptions that can be read are. -/
theorem Deployment.exists_ofDescriptions {descriptions : List DeploymentDescription}
    (fine : ∀ d ∈ descriptions, ∀ fault, ¬Malformed d fault) :
    ∃ deployments, ofDescriptions descriptions = .ok deployments := by
  induction descriptions with
  | nil => exact ⟨[], rfl⟩
  | cons d rest ih =>
      obtain ⟨deployments, later⟩ :=
        ih fun other member => fine other (List.mem_cons_of_mem d member)
      cases parsed : TaskDefinition.parseRevision d.taskDefinition with
      | error fault => exact absurd parsed (fine d List.mem_cons_self fault)
      | ok revision =>
          obtain ⟨deployment, first⟩ : ∃ deployment, ofDescription d = .ok deployment :=
            ⟨_, bind_eq_ok.mpr ⟨revision, parsed, rfl⟩⟩
          exact ⟨_, bind_eq_ok.mpr ⟨deployment, first, bind_eq_ok.mpr ⟨deployments, later, rfl⟩⟩⟩

namespace Watcher

/-- What a handle of the gate shows. -/
def showsDone (w : Watcher) (handle : Nat) : Bool :=
  match (w.serve (.isDone handle)).2 with
  | .done signaled => signaled
  | _ => false

@[simp] theorem showsDone_eq (w : Watcher) (handle : Nat) :
    w.showsDone handle = w.gate.signaled := rfl

/-- The actions of the loop. -/
def driving (handle : Nat) : (schedule : Nat → Interlude) → Watcher → List Reply → List Action
  | schedule, _, [] => (schedule 0).before.map .reader
  | schedule, w, reply :: replies =>
    let reading := (schedule 0).before.map .reader
    let ready := (w.run reading).1
    if ready.showsDone handle then reading
    else
      match (ready.collect reply).result with
      | .error _ => reading ++ [.owner (.collect reply)]
      | .ok _ =>
        let round := w.round (schedule 0) reply
        let after := (w.run round).1
        round ++
          if after.publishing then [] else driving handle (fun i => schedule (i + 1)) after replies

theorem signaled_readers (w : Watcher) (turn : List ReaderAction) :
    (w.run (turn.map .reader)).1.gate.signaled = w.gate.signaled := by
  rw [run_readers, signaled_serveAll]

section Unfold

variable (handle : Nat) (schedule : Nat → Interlude) {w : Watcher}

/-- Once the gate is signaled, the loop is over. -/
theorem driving_of_signaled (signaled : w.gate.signaled = true) (replies : List Reply) :
    w.driving handle schedule replies = (schedule 0).before.map .reader := by
  cases replies with
  | nil => rfl
  | cons reply replies =>
      rw [driving, showsDone_eq, signaled_readers, signaled]
      rfl

section Unsignaled

variable (unsignaled : w.gate.signaled = false) {reply : Reply} (replies : List Reply)

include unsignaled

theorem driving_of_fault {fault : CollectFault}
    (failed : ((w.run ((schedule 0).before.map .reader)).1.collect reply).result = .error fault) :
    w.driving handle schedule (reply :: replies) =
      (schedule 0).before.map .reader ++ [.owner (.collect reply)] := by
  rw [driving, showsDone_eq, signaled_readers, unsignaled, failed]
  rfl

/-- A round, and the rest of the loop. -/
theorem driving_of_snapshot {snapshot : Snapshot}
    (given : ((w.run ((schedule 0).before.map .reader)).1.collect reply).result = .ok snapshot) :
    let round := w.round (schedule 0) reply
    let after := (w.run round).1
    w.driving handle schedule (reply :: replies) =
      round ++ if after.publishing then []
        else after.driving handle (fun i => schedule (i + 1)) replies := by
  intro round after
  rw [driving, showsDone_eq, signaled_readers, unsignaled, given]
  rfl

end Unsignaled

/-- The loop leaves it to readers what they do. -/
theorem mem_driving {action : ReaderAction} (replies : List Reply) :
    ∀ {schedule : Nat → Interlude} {w : Watcher},
      .reader action ∈ w.driving handle schedule replies → ∃ i, action ∈ (schedule i).actions := by
  have reading (schedule : Nat → Interlude)
      (member : .reader action ∈ (schedule 0).before.map Action.reader) :
      ∃ i, action ∈ (schedule i).actions := by
    refine ⟨0, List.mem_append_left _ (List.mem_append_left _ ?_)⟩
    simpa using member
  induction replies with
  | nil =>
      intro schedule w member
      exact reading schedule member
  | cons reply replies ih =>
      intro schedule w member
      rw [driving] at member
      split at member
      · exact reading schedule member
      · split at member
        · obtain before | collect := List.mem_append.mp member
          · exact reading schedule before
          · cases List.mem_singleton.mp collect
        · obtain here | later := List.mem_append.mp member
          · exact ⟨0, mem_round here⟩
          · split at later
            · cases later
            · obtain ⟨i, found⟩ := ih later
              exact ⟨i + 1, found⟩

theorem driving_of_readable (unsignaled : w.gate.signaled = false) {d : ServiceDescription}
    (fine : d.IsReadable) (replies : List Reply) :
    let round := w.round (schedule 0) (.described d)
    let after := (w.run round).1
    w.driving handle schedule (.described d :: replies) =
      round ++ if after.publishing then []
        else after.driving handle (fun i => schedule (i + 1)) replies := by
  obtain ⟨deployments, read⟩ := Deployment.exists_ofDescriptions fine
  exact driving_of_snapshot handle schedule unsignaled replies (by rw [collect, read])

end Unfold

/-- What a loop comes to that got through all its rounds. -/
structure Concluded (w : Watcher) (responses : List ServiceDescription) (trace : List Action) :
    Prop where
  owners : Action.owners trace = responses.flatMap fun d => [.collect (.described d), .publish]
  empty : (w.run trace).1.pending = []
  shown : List.Forall₂ (fun d snapshot => snapshot.Shows d) responses (w.buffered trace)

/-- Readers may go on when there is nothing left to do. -/
theorem Concluded.nil {w : Watcher} (empty : w.pending = []) (turn : List ReaderAction) :
    w.Concluded [] (turn.map .reader) := by
  refine ⟨Action.owners_readers turn, ?_, ?_⟩
  · obtain ⟨_, _, same⟩ := serveAll_frame turn w
    rw [run_readers, same]
    exact empty
  · rw [buffered_of_owners (by simp)]
    exact .nil

/-- One more round. -/
theorem Concluded.cons {w : Watcher} {d : ServiceDescription} {rest : List ServiceDescription}
    {interlude : Interlude} {trace : List Action} {snapshot : Snapshot} (shows_ : snapshot.Shows d)
    (buffered : w.buffered (w.round interlude (.described d)) = [snapshot])
    (h : (w.run (w.round interlude (.described d))).1.Concluded rest trace) :
    w.Concluded (d :: rest) (w.round interlude (.described d) ++ trace) := by
  refine ⟨?_, ?_, ?_⟩
  · rw [Action.owners_append, owners_round, h.owners, List.flatMap_cons]
  · rw [run_append]
    exact h.empty
  · rw [buffered_append, buffered]
    exact .cons shows_ h.shown

/-- What a round comes to that begins with an empty buffer. -/
theorem round_of_readable {plan : Plan} {count : Nat} {w : Watcher} {d : ServiceDescription}
    (fine : d.IsReadable) (loaded : Loaded plan count w) (empty : w.pending = [])
    (unsignaled : w.gate.signaled = false) (interlude : Interlude) :
    let round := w.round interlude (.described d)
    let after := (w.run round).1
    Loaded plan (count + 1) after ∧ (after.gate.signaled = true ↔ d.HasSteadyPrimary) ∧
      (count < plan.capacity → after.publishing = false) ∧
      (after.publishing = false → after.pending = []) ∧
      ∃ snapshot : Snapshot, snapshot.Shows d ∧ w.buffered round = [snapshot] := by
  intro round after
  have idle := loaded.idle empty
  obtain ⟨deployments, read⟩ := Deployment.exists_ofDescriptions fine
  obtain ⟨snapshot, rfl, buffered⟩ := buffered_round idle interlude read
  have shown : snapshot.Shows d := Snapshot.shows_iff.mpr read
  have grown := loaded.run round
  have signaled := signaled_run round loaded.owned
  rw [buffered] at grown signaled
  refine ⟨grown, ?_, loaded.round_returns idle interlude read, clear_round idle interlude _,
    snapshot, shown, buffered⟩
  rw [signaled, unsignaled, List.any_cons, List.any_nil, Bool.false_or, Bool.or_false]
  exact shown.isComplete_iff

/-- The loop, by induction on the responses before the last one. -/
theorem driving_concludes {plan : Plan} (handle : Nat) {last : ServiceDescription}
    (readable : last.IsReadable) (steady : last.HasSteadyPrimary) (extra : List Reply)
    (earlier : List ServiceDescription) :
    ∀ {count : Nat} {w : Watcher} (schedule : Nat → Interlude),
      Loaded plan count w → w.pending = [] → w.gate.signaled = false →
      (∀ d ∈ earlier, d.IsReadable ∧ ¬d.HasSteadyPrimary) →
      let trace := w.driving handle schedule
        (earlier.map .described ++ .described last :: extra)
      (count + earlier.length < plan.capacity → (w.run trace).1.publishing = false) ∧
        ((w.run trace).1.publishing = false →
          w.Concluded (earlier ++ [last]) trace ∧ (w.run trace).1.gate.signaled = true) := by
  induction earlier with
  | nil =>
      intro count w schedule loaded empty unsignaled _ trace
      obtain ⟨_, signaled, returns, clear, snapshot, shows_, buffered⟩ :=
        round_of_readable readable loaded empty unsignaled (schedule 0)
      have unfolded : trace = _ := driving_of_readable handle schedule unsignaled readable extra
      clear_value trace
      subst unfolded
      cases publishing : (w.run (w.round (schedule 0) (.described last))).1.publishing with
      | true =>
          rw [if_pos rfl, List.append_nil, publishing]
          exact ⟨fun room => publishing.symm.trans (returns room), nofun⟩
      | false =>
          rw [if_neg Bool.false_ne_true, driving_of_signaled _ _ (signaled.mpr steady), run_append]
          have concluded := Concluded.cons shows_ buffered (.nil (clear publishing) (schedule 1).before)
          refine ⟨fun _ => ?_, fun _ => ⟨concluded, ?_⟩⟩
          · exact (publishing_readers _ _).trans publishing
          · exact (signaled_readers _ _).trans (signaled.mpr steady)
  | cons d earlier ih =>
      intro count w schedule loaded empty unsignaled fine trace
      obtain ⟨readable, unsteady⟩ := fine d List.mem_cons_self
      obtain ⟨grown, signaled, returns, clear, snapshot, shows_, buffered⟩ :=
        round_of_readable readable loaded empty unsignaled (schedule 0)
      have unfolded : trace = _ := driving_of_readable handle schedule unsignaled readable _
      clear_value trace
      subst unfolded
      cases publishing : (w.run (w.round (schedule 0) (.described d))).1.publishing with
      | true =>
          rw [if_pos rfl, List.append_nil, publishing]
          refine ⟨fun room => publishing.symm.trans (returns ?_), nofun⟩
          exact Nat.lt_of_le_of_lt (Nat.le_add_right ..) room
      | false =>
          rw [if_neg Bool.false_ne_true, run_append]
          have rest := ih (fun i => schedule (i + 1)) grown (clear publishing)
            (Bool.eq_false_iff.mpr fun done => unsteady (signaled.mp done))
            fun other member => fine other (List.mem_cons_of_mem d member)
          refine ⟨fun room => rest.1 ?_, fun returned => ?_⟩
          · rw [List.length_cons] at room
            omega
          · obtain ⟨concluded, done⟩ := rest.2 returned
            exact ⟨.cons shows_ buffered concluded, done⟩

/-- Of the snapshots of some responses, those are complete whose description has a steady primary
deployment. -/
theorem complete_of_shown {last : ServiceDescription} (steady : last.HasSteadyPrimary)
    {earlier : List ServiceDescription} :
    ∀ {snapshots : List Snapshot}, (∀ d ∈ earlier, ¬d.HasSteadyPrimary) →
      List.Forall₂ (fun d snapshot => snapshot.Shows d) (earlier ++ [last]) snapshots →
        snapshots.map (·.isComplete) = List.replicate earlier.length false ++ [true] := by
  induction earlier with
  | nil =>
      intro snapshots _ shown
      obtain _ | ⟨shows_, rest⟩ := shown
      cases rest
      rw [List.map_singleton, shows_.isComplete_iff.mpr steady]
      rfl
  | cons d earlier ih =>
      intro snapshots unsteady shown
      obtain _ | ⟨shows_, rest⟩ := shown
      have incomplete := Bool.eq_false_iff.mpr fun complete =>
        unsteady d List.mem_cons_self (shows_.isComplete_iff.mp complete)
      rw [List.map_cons, incomplete, ih (fun other member =>
        unsteady other (List.mem_cons_of_mem d member)) rest]
      rfl

/-- Where nothing is in the buffer, whoever listened from the beginning took everything. -/
theorem taken_of_empty (plan : Plan) (actions : List Action) (listener : Nat) :
    let w := ((create plan).run actions).1
    w.closed = false → w.pending = [] → w.isListening listener = true →
      (∀ start ∈ ((create plan).history actions).starts, start = 0) →
        (w.mailbox listener).taken = (create plan).buffered actions := by
  intro w opened empty listening first
  have fan := fanout_run plan actions
  have ok := (sound_run plan actions).orderly
  have registered := ok.listening opened listener listening
  obtain ⟨place, here⟩ := List.getElem?_of_mem registered
  obtain ⟨since, known⟩ := fan.exists_start ok registered
  have all := fan.buffer.symm.trans empty
  rw [List.drop_eq_nil_iff] at all
  have start : w.delivered = 0 := Nat.eq_zero_of_not_pos fun begun => ok.front begun empty
  rw [fan.taken place listener since here listening known, first _ (List.mem_of_getElem? known),
    start, if_neg (Nat.not_lt_zero _), History.between, List.drop_zero, Nat.add_zero,
    List.take_of_length_le all]
  rfl

/-- What a listener has read behind a close and can still read is what its mailbox took before. -/
theorem read_behind_close (plan : Plan) (actions later : List Action) (listener : Nat) :
    let w := ((create plan).run actions).1
    let final := ((w.act (.owner .close)).watcher.run later).1
    w.closed = false → w.publishing = false → (final.mailbox listener).isDropped = false →
      ((create plan).history (actions ++ .owner .close :: later)).readings listener ++
          (final.mailbox listener).held = (w.mailbox listener).taken ∧
        (final.serve (.drain listener)).2 = .drained (final.mailbox listener).held .closed := by
  intro w final opened idle kept
  have whole : ((create plan).run (actions ++ .owner .close :: later)).1 = final := by
    rw [run_append, run_cons]
  have read := (fanout_run plan (actions ++ .owner .close :: later)).read listener
  rw [whole] at read
  obtain ⟨still, keeps, _⟩ := shut_run (.of_idle idle) later
  rw [← (act_close opened idle).1] at still keeps
  refine ⟨?_, still.drain kept⟩
  rw [← read]
  exact (keeps listener (hasDropped_of_kept kept)).2.trans (by rw [(act_close opened idle).1]; rfl)

section Setup

variable (plan : Plan) {setup : List Action}
  (opening : ∀ action ∈ Action.owners setup, action = .subscribe ∨ action = .takeHandle)

include opening

/-- A watcher at which only listeners subscribed and handles were taken. -/
theorem run_setup :
    let w := ((create plan).run setup).1
    (create plan).buffered setup = [] ∧ w.pending = [] ∧ w.closed = false ∧ w.gate.signaled = false ∧
      ∀ start ∈ ((create plan).history setup).starts, start = 0 := by
  have unbuffered : (create plan).buffered setup = [] := by
    apply buffered_of_owners
    intro reply member
    cases opening _ member <;> contradiction
  have opened : .close ∉ Action.owners setup := by
    intro member
    cases opening _ member <;> contradiction
  have fan := fanout_run plan setup
  have none : ((create plan).history setup).buffered = [] := unbuffered
  have retired : ((create plan).history setup).retired = 0 := by
    have le := fan.retired_le
    rw [none] at le
    exact Nat.eq_zero_of_le_zero le
  refine ⟨unbuffered, ?_, closed_run opened, ?_, ?_⟩
  · rw [fan.buffer, none, List.drop_nil]
  · rw [signaled_run setup (w := create plan) rfl, unbuffered]
    rfl
  · intro start member
    exact Nat.eq_zero_of_le_zero (retired ▸ fan.starts_le start member)

/-- A loop that follows, up to the close: whoever still listens took every snapshot of the loop. -/
theorem driving_setup (handle : Nat) (schedule : Nat → Interlude)
    {earlier : List ServiceDescription} {last : ServiceDescription} (extra : List Reply)
    (readable : ∀ d ∈ earlier ++ [last], d.IsReadable)
    (unsteady : ∀ d ∈ earlier, ¬d.HasSteadyPrimary) (steady : last.HasSteadyPrimary) :
    let w := ((create plan).run setup).1
    let trace := w.driving handle schedule ((earlier ++ [last]).map .described ++ extra)
    let after := (w.run trace).1
    ((earlier ++ [last]).length ≤ plan.capacity → after.publishing = false) ∧
      (after.publishing = false →
        w.Concluded (earlier ++ [last]) trace ∧ after.gate.signaled = true ∧
          after.closed = false ∧
          (w.buffered trace).map (·.isComplete) = List.replicate earlier.length false ++ [true] ∧
          ∀ listener, after.isListening listener = true →
            (after.mailbox listener).taken = w.buffered trace) := by
  intro w trace after
  obtain ⟨unbuffered, empty, opened, unsignaled, starts⟩ := run_setup plan opening
  have loaded : Loaded plan 0 w := ⟨setup, rfl, by rw [unbuffered]; rfl⟩
  have fine : ∀ d ∈ earlier, d.IsReadable ∧ ¬d.HasSteadyPrimary := fun d member =>
    ⟨readable d (List.mem_append_left _ member), unsteady d member⟩
  have final := readable last (List.mem_append_right _ (List.mem_singleton_self last))
  have replies : (earlier ++ [last]).map Reply.described ++ extra =
      earlier.map .described ++ .described last :: extra := by
    simp
  have driven := driving_concludes handle final steady extra earlier schedule loaded empty
    unsignaled fine
  rw [← replies] at driven
  obtain ⟨returns, concludes⟩ := driven
  refine ⟨fun room => returns ?_, fun returned => ?_⟩
  · rw [List.length_append, List.length_singleton] at room
    omega
  · obtain ⟨concluded, done⟩ := concludes returned
    have apart : ∀ action ∈ Action.owners trace, action ≠ .subscribe ∧ action ≠ .close := by
      intro action member
      rw [concluded.owners] at member
      obtain ⟨_, _, inside⟩ := List.mem_flatMap.mp member
      obtain rfl | rfl := List.mem_pair.mp inside <;> exact ⟨nofun, nofun⟩
    have still : after.closed = false :=
      (closed_run fun member => (apart _ member).2 rfl).trans opened
    refine ⟨concluded, done, still, complete_of_shown steady unsteady concluded.shown, ?_⟩
    intro listener listening
    have taken := taken_of_empty plan (setup ++ trace) listener
    rw [run_append, buffered_append, unbuffered, List.nil_append,
      starts_append fun member => (apart _ member).1 rfl] at taken
    exact taken still concluded.empty listening starts

end Setup

/-- A loop over some responses, of which the last one and no other has a steady primary deployment,
with whatever the describer would reply behind them and whatever readers do in between. Every
publish returns if the mailboxes take as many snapshots as there are responses. If every publish
returns, the owner collects once and publishes once for each response and does nothing else, the
gate is signaled, and nothing is left in the buffer. Each response has led to a snapshot with its
deployments, and the last one of these and no other is complete. After the close, a listener that
still listened, and did not drop its reading end later, has read or can read exactly these snapshots
in order, and then it is at the end of the stream. -/
theorem loop_stops_at_completion (plan : Plan) (setup : List Action) (handle : Nat)
    (schedule : Nat → Interlude) (earlier : List ServiceDescription) (last : ServiceDescription)
    (extra : List Reply) :
    let w := ((create plan).run setup).1
    let responses := earlier ++ [last]
    let trace := w.driving handle schedule (responses.map .described ++ extra)
    let after := (w.run trace).1
    let closed := (after.act (.owner .close)).watcher
    (∀ action ∈ Action.owners setup, action = .subscribe ∨ action = .takeHandle) →
    (∀ d ∈ responses, d.IsReadable) → (∀ d ∈ earlier, ¬d.HasSteadyPrimary) →
    last.HasSteadyPrimary →
      (responses.length ≤ plan.capacity → after.publishing = false) ∧
      (after.publishing = false →
        Action.owners trace = responses.flatMap (fun d => [.collect (.described d), .publish]) ∧
        after.showsDone handle = true ∧ closed.pending = [] ∧
        ∃ snapshots, List.Forall₂ (fun d snapshot => snapshot.Shows d) responses snapshots ∧
          snapshots.map (·.isComplete) = List.replicate earlier.length false ++ [true] ∧
          ∀ listener later, after.isListening listener = true →
            let final := (closed.run later).1
            (final.mailbox listener).isDropped = false →
              ((create plan).history (setup ++ trace ++ .owner .close :: later)).readings listener ++
                  (final.mailbox listener).held = snapshots ∧
                (final.serve (.drain listener)).2 =
                  .drained (final.mailbox listener).held .closed) := by
  intro w responses trace after closed opening readable unsteady steady
  obtain ⟨returns, concludes⟩ :=
    driving_setup plan opening handle schedule extra readable unsteady steady
  refine ⟨returns, fun returned => ?_⟩
  obtain ⟨concluded, done, opened, complete, taken⟩ := concludes returned
  refine ⟨concluded.owners, done, ?_, _, concluded.shown, complete, ?_⟩
  · exact (congrArg pending (act_close opened returned).1).trans concluded.empty
  · intro listener later listening final kept
    have read := read_behind_close plan (setup ++ trace) later listener
    rw [run_append] at read
    obtain ⟨all, drained⟩ := read opened returned kept
    exact ⟨all.trans (taken listener listening), drained⟩

/-- Two listeners subscribe, and the owner takes a handle. -/
def twoListeners : List Action :=
  [.owner .subscribe, .owner .takeHandle, .owner .subscribe]

/-- A description of the sample rollout in which some of three tasks run. -/
def runningTasks (running : Nat) : ServiceDescription :=
  match Reply.sample running with
  | .described description => description
  | _ => {}

/-- Whenever a publish waits, the listeners read one snapshot each, one after the other. -/
def readingInTurn : Interlude where
  waiting := [[.receive 0], [.receive 1]]

theorem parseRevision_runningTasks :
    TaskDefinition.parseRevision "task-definition/frontend:7" = .ok "7" := by
  decide +kernel

theorem isReadable_runningTasks (running : Nat) : (runningTasks running).IsReadable := by
  intro deployment member fault malformed
  obtain rfl := List.mem_singleton.mp member
  cases parseRevision_runningTasks.symm.trans malformed

/-- The deployment that snapshots of this description hold. -/
def runningDeployment (running : Nat) : Deployment where
  status := "PRIMARY"
  revision := "7"
  desiredCount := 3
  runningCount := running
  failedCount := 0
  pendingCount := 0
  rolloutState := "IN_PROGRESS"

theorem deployments_of_shows_runningTasks {running : Nat} {snapshot : Snapshot}
    (shown : snapshot.Shows (runningTasks running)) :
    snapshot.deployments = [runningDeployment running] := by
  have same : Snapshot.Shows { deployments := [runningDeployment running], failures := [] }
      (runningTasks running) :=
    .cons ⟨rfl, parseRevision_runningTasks, rfl, rfl, rfl, rfl, rfl⟩ .nil
  exact Except.ok.inj ((Snapshot.shows_iff.mp shown).symm.trans (Snapshot.shows_iff.mp same))

theorem hasSteadyPrimary_runningTasks {running : Nat} :
    (runningTasks running).HasSteadyPrimary ↔ running = 3 := by
  simp [ServiceDescription.HasSteadyPrimary, runningTasks, Reply.sample, Reply.listing,
    Deployment.primaryStatus, eq_comm]

/-- Three responses, mailboxes that take one snapshot, and readers who let each publish wait; and
the same responses where nobody reads and the mailboxes take five. -/
theorem loop_stops_at_completion_readingInTurn :
    let w := ((create .sample).run twoListeners).1
    let responses := [runningTasks 0, runningTasks 1] ++ [runningTasks 3]
    let trace := w.driving 0 (fun _ => readingInTurn) (responses.map .described ++ [.sample 2])
    let after := (w.run trace).1
    let closed := (after.act (.owner .close)).watcher
    let final := (closed.run [.reader (.receive 0)]).1
    let roomy := ((create roomyPlan).run twoListeners).1
    let unread := roomy.driving 0 (fun _ => {}) (responses.map .described ++ [])
    (trace.count .resume = 4 ∧ after.publishing = false) ∧
      Action.owners trace = responses.flatMap (fun d => [.collect (.described d), .publish]) ∧
      closed.pending = [] ∧
      (∃ snapshots, List.Forall₂ (fun d snapshot => snapshot.Shows d) responses snapshots ∧
        snapshots.map (·.deployments) =
          [[runningDeployment 0], [runningDeployment 1], [runningDeployment 3]] ∧
        snapshots.map (·.isComplete) = List.replicate 2 false ++ [true] ∧
        ((create .sample).history (twoListeners ++ trace ++
          .owner .close :: [.reader (.receive 0)])).readings 0 ++ (final.mailbox 0).held = snapshots ∧
        (final.serve (.drain 0)).2 = .drained (final.mailbox 0).held .closed) ∧
      (roomy.run unread).1.publishing = false := by
  have opening : ∀ action ∈ Action.owners twoListeners,
      action = .subscribe ∨ action = .takeHandle := by decide +kernel
  have readable : ∀ d ∈ [runningTasks 0, runningTasks 1] ++ [runningTasks 3], d.IsReadable := by
    intro d member
    obtain rfl | rfl | rfl : d = runningTasks 0 ∨ d = runningTasks 1 ∨ d = runningTasks 3 := by
      simpa using member
    all_goals exact isReadable_runningTasks _
  have unsteady : ∀ d ∈ [runningTasks 0, runningTasks 1], ¬d.HasSteadyPrimary := by
    intro d member
    obtain rfl | rfl := List.mem_pair.mp member <;> simp [hasSteadyPrimary_runningTasks]
  have steady : (runningTasks 3).HasSteadyPrimary := hasSteadyPrimary_runningTasks.mpr rfl
  have driven := loop_stops_at_completion .sample twoListeners 0 (fun _ => readingInTurn)
    [runningTasks 0, runningTasks 1] (runningTasks 3) [.sample 2] opening readable unsteady steady
  have roomy := loop_stops_at_completion roomyPlan twoListeners 0 (fun _ => {})
    [runningTasks 0, runningTasks 1] (runningTasks 3) [] opening readable unsteady steady
  dsimp only at driven roomy ⊢
  obtain ⟨owners, _, empty, snapshots, shown, complete, read⟩ := driven.2 (by decide +kernel)
  obtain ⟨all, drained⟩ := read 0 [.reader (.receive 0)] (by decide +kernel) (by decide +kernel)
  have deployments : snapshots.map (·.deployments) =
      [[runningDeployment 0], [runningDeployment 1], [runningDeployment 3]] := by
    obtain _ | ⟨first, _ | ⟨second, _ | ⟨third, _ | _⟩⟩⟩ := shown
    simp only [List.map_cons, List.map_nil, deployments_of_shows_runningTasks first,
      deployments_of_shows_runningTasks second, deployments_of_shows_runningTasks third]
  exact ⟨⟨by decide +kernel, by decide +kernel⟩, owners, empty,
    ⟨snapshots, shown, deployments, complete, all, drained⟩, roomy.1 (by decide)⟩

end Watcher

end RolloutWatch
