import RolloutWatch.Drive
import RolloutWatch.Proofs.Watcher.Driving

/-!
# The loop in which everybody reads everything

`Watcher.loop` is the loop in which all listeners read all that they can whenever a publish
waits. One such turn is enough: the buffer holds one snapshot, and every mailbox has room
for it afterwards. So each publish returns, and the loop does what `driving` lists for
this schedule.
-/

namespace RolloutWatch

/-- Whenever the publish waits, each of a number of listeners reads everything. -/
def Interlude.draining (listeners : Nat) : Interlude where
  waiting := [(List.range listeners).map .drain]

theorem Interlude.apart_of_mem_draining {listeners : Nat} {action : ReaderAction}
    (member : action ∈ (draining listeners).actions) (listener : Nat) :
    action ≠ .closeReading listener ∧ action ≠ .dropReading listener := by
  obtain ⟨_, _, rfl⟩ : ∃ reader, reader < listeners ∧ ReaderAction.drain reader = action := by
    simpa [draining, actions] using member
  constructor
  · intro same
    cases same
  · intro same
    cases same

namespace Watcher

theorem held_serve_drain (w : Watcher) (reader listener : Nat) :
    ((w.serve (.drain reader)).1.mailbox listener).held =
      if reader = listener then [] else (w.mailbox listener).held := by
  by_cases same : reader = listener
  · subst same
    rw [if_pos rfl]
    by_cases present : reader < w.mailboxes.length
    · exact congrArg Mailbox.held (mailbox_setMailbox present)
    · refine congrArg Mailbox.held (mailbox_of_le ?_)
      exact Nat.le_trans (Nat.le_of_eq List.length_set) (Nat.le_of_not_lt present)
  · rw [if_neg same]
    exact congrArg Mailbox.held (mailbox_setMailbox_of_ne (Ne.symm same))

/-- What is empty stays empty, and who reads everything leaves nothing. -/
theorem held_serveAll_drain (readers : List Nat) :
    ∀ {w : Watcher} {listener : Nat}, listener ∈ readers ∨ (w.mailbox listener).held = [] →
      ((w.serveAll (readers.map .drain)).1.mailbox listener).held = [] := by
  induction readers with
  | nil =>
      intro w listener known
      exact known.resolve_left List.not_mem_nil
  | cons reader rest ih =>
      intro w listener known
      refine ih (w := (w.serve (.drain reader)).1) ?_
      rw [held_serve_drain]
      split
      · exact .inr rfl
      · next other =>
          refine known.imp_left fun member => ?_
          exact (List.mem_cons.mp member).resolve_left (Ne.symm other)

theorem held_drainAll (w : Watcher) (listener : Nat) :
    ((w.serveAll w.drainAll).1.mailbox listener).held = [] := by
  apply held_serveAll_drain
  rw [List.mem_range]
  refine (Nat.lt_or_ge listener w.mailboxes.length).imp_right fun absent => ?_
  rw [mailbox_of_le absent]

/-- A publish of one snapshot returns when it is resumed and all mailboxes are empty. -/
theorem resume_returns_of_drained {plan : Plan} {actions : List Action} :
    let w := ((create plan).run actions).1
    w.publishing = true → w.pending.length ≤ 1 → (∀ listener, (w.mailbox listener).held = []) →
      w.resume.1.publishing = false := by
  intro w publishing few drained
  have sound := sound_run plan actions
  have poll := polled_resume (sound.waiting publishing) publishing
  refine (poll.returns_iff (fanout_run plan actions) sound.orderly (fits_run plan actions)).mpr ?_
  intro place listener here listening
  rw [allowance, free, drained, List.length_nil, Nat.sub_zero]
  exact Nat.le_trans few (Nat.le_add_right_of_le w.plan.capacity_pos)

theorem abandon_of_idle {w : Watcher} (idle : w.publishing = false) : w.abandon = w := by
  rw [abandon, ← idle]

/-- A publish amid readers is a run, at the end of which a publish that still waits is given up. -/
theorem watcher_attend (turns : List (List ReaderAction)) :
    ∀ w : Watcher, (w.attend turns).watcher = (w.run (w.attending turns)).1.abandon := by
  induction turns with
  | nil =>
      intro w
      rfl
  | cons turn turns ih =>
      intro w
      rw [attend, attending]
      split
      · next publishing =>
          obtain ⟨mailboxes, gate, same⟩ := serveAll_frame turn w
          have still : (w.serveAll turn).1.publishing = true := by rw [same]; exact publishing
          have polled : (w.run (turn.map .reader ++ [.resume])).1 =
              (w.serveAll turn).1.resume.1 := by
            rw [run_append, run_readers, run_cons, run_nil, act, if_pos still]
            rfl
          rw [run_append, polled]
          exact ih _
      · next idle => exact (abandon_of_idle (Bool.eq_false_iff.mpr idle)).symm

/-- A poll of a publish puts nothing into the buffer. -/
theorem Polled.length_pending_le {w : Watcher} {result : Watcher × List Move}
    (poll : Polled w result) : result.1.pending.length ≤ w.pending.length := by
  cases poll with
  | returned path | waits path =>
      show List.length _ ≤ _
      rw [path.pending_eq, List.length_drop]
      exact Nat.sub_le ..

namespace Loaded

variable {plan : Plan} {count : Nat} {w : Watcher}

/-- Only those who subscribe get a mailbox. -/
theorem length_mailboxes (h : Loaded plan count w) (actions : List Action)
    (none : .subscribe ∉ Action.owners actions) :
    (w.run actions).1.mailboxes.length = w.mailboxes.length := by
  obtain ⟨past, rfl, _⟩ := h
  have behind := (fanout_run plan (past ++ actions)).starts
  rw [starts_append none, (fanout_run plan past).starts, run_append] at behind
  exact behind.symm

/-- A publish that waits with one snapshot returns behind a turn in which everybody reads
everything. -/
theorem attending_drained (h : Loaded plan count w) (few : w.pending.length ≤ 1) :
    (w.run (w.attending [w.drainAll])).1.publishing = false := by
  rw [attending]
  split
  · next publishing =>
      obtain ⟨mailboxes, gate, same⟩ := serveAll_frame w.drainAll w
      have served := h.run (w.drainAll.map .reader)
      rw [run_readers] at served
      have still : (w.serveAll w.drainAll).1.publishing = true := by rw [same]; exact publishing
      have left : (w.serveAll w.drainAll).1.pending.length ≤ 1 := by rw [same]; exact few
      have empty := held_drainAll w
      show (w.run ((w.drainAll.map .reader ++ [.resume]) ++ [])).1.publishing = false
      rw [List.append_nil, run_append, run_readers, run_cons, run_nil, act, if_pos still]
      generalize (w.serveAll w.drainAll).1 = drained at *
      obtain ⟨past, rfl, _⟩ := served
      exact resume_returns_of_drained still left empty
  · next idle => exact Bool.eq_false_iff.mpr idle

end Loaded

/-- The watcher that waits or has published behind a collect. -/
def begun (w : Watcher) (reply : Reply) : Watcher :=
  (w.collect reply).watcher.publish.1

section Begun

variable {w : Watcher} (idle : w.publishing = false) (reply : Reply)

include idle

theorem act_publish_collect :
    ((w.collect reply).watcher.act (.owner .publish)).watcher = w.begun reply := by
  rw [act_owner ((w.publishing_collect reply).trans idle)]
  rfl

theorem run_begun :
    (w.run [.owner (.collect reply), .owner .publish]).1 = w.begun reply := by
  rw [run_cons, act_owner idle]
  exact act_publish_collect idle reply

/-- A round in which readers act only while the publish waits. -/
theorem run_round_draining (listeners : Nat) :
    (w.run (w.round (.draining listeners) reply)).1 =
      ((w.begun reply).run
        ((w.begun reply).attending [(List.range listeners).map .drain])).1 := by
  have collected : (w.run ((Interlude.draining listeners).collecting reply)).1 =
      (w.collect reply).watcher := by
    show (w.act (.owner (.collect reply))).watcher = _
    rw [act_owner idle]
    rfl
  rw [round, run_append, run_cons, collected, act_publish_collect idle]
  rfl

end Begun

namespace Loaded

variable {plan : Plan} {count : Nat} {w : Watcher}

/-- A round in which everybody reads everything comes to its end. -/
theorem round_drained (h : Loaded plan count w) (empty : w.pending = []) (reply : Reply) :
    (w.run (w.round (.draining w.mailboxes.length) reply)).1.publishing = false := by
  have idle := h.idle empty
  have one : (w.collect reply).watcher.pending.length ≤ 1 := by
    rw [pending_collect, empty, List.nil_append]
    cases (w.collect reply).result.toOption <;> simp
  have few : (w.begun reply).pending.length ≤ 1 := by
    by_cases waiting : (w.collect reply).watcher.pending = []
    · rw [begun, publish, if_pos (List.isEmpty_iff.mpr waiting)]
      exact one
    · exact Nat.le_trans (polled_publish waiting).length_pending_le one
  have loaded := h.run [.owner (.collect reply), .owner .publish]
  have listeners : (w.run [.owner (.collect reply), .owner .publish]).1.mailboxes.length =
      w.mailboxes.length := h.length_mailboxes _ (by simp)
  rw [run_begun idle] at loaded listeners
  have returned := loaded.attending_drained few
  rw [drainAll, listeners] at returned
  rw [run_round_draining idle]
  exact returned

end Loaded

/-- What the loop makes of a collect that gives a snapshot. -/
theorem watcher_publishAmid {plan : Plan} {count : Nat} {w : Watcher} (h : Loaded plan count w)
    (empty : w.pending = []) {reply : Reply} {snapshot : Snapshot}
    (given : (w.collect reply).result = .ok snapshot) :
    let collected := (w.collect reply).watcher
    (collected.publishAmid
        (List.replicate collected.pending.length collected.drainAll)).watcher =
      (w.run (w.round (.draining w.mailboxes.length) reply)).1 := by
  intro collected
  have idle := h.idle empty
  have one : collected.pending.length = 1 := by
    rw [pending_collect, empty, given]
    rfl
  have listeners : collected.mailboxes.length = w.mailboxes.length := by
    have same := h.length_mailboxes [.owner (.collect reply)] (by simp)
    rwa [run_cons, act_owner idle] at same
  rw [one, drainAll, listeners, ← abandon_of_idle (h.round_drained empty reply),
    run_round_draining idle]
  exact watcher_attend [(List.range w.mailboxes.length).map .drain] (w.begun reply)

/-- The loop does what is listed for the schedule in which everybody reads everything, and it leaves
nothing in the buffer. If the gate is signaled in the end, the loop tells so, and it counts a collect
for each pair of a collect and a publish. By induction on the limit. -/
theorem loop_eq_driving {plan : Plan} (handle listeners limit : Nat) :
    ∀ {count : Nat} {w : Watcher} (replies : List Reply), Loaded plan count w → w.pending = [] →
      w.mailboxes.length = listeners →
      let trace := w.driving handle (fun _ => .draining listeners) (replies.take limit)
      let drive := w.loop limit replies
      drive.watcher = (w.run trace).1 ∧ drive.watcher.pending = [] ∧
        (drive.watcher.gate.signaled = true →
          drive.ending = .complete ∧ (Action.owners trace).length = 2 * drive.collects) := by
  induction limit with
  | zero =>
      intro count w replies _ empty _ trace drive
      refine ⟨rfl, empty, ?_⟩
      intro signaled
      exact ⟨if_pos signaled, rfl⟩
  | succ limit ih =>
      intro count w replies loaded empty same
      have idle := loaded.idle empty
      cases signaled : w.gate.signaled with
      | true =>
          rw [loop, if_pos signaled, driving_of_signaled _ _ signaled]
          exact ⟨rfl, empty, fun _ => ⟨rfl, rfl⟩⟩
      | false =>
          have unsignaled : ¬w.gate.signaled = true := Bool.eq_false_iff.mp signaled
          cases replies with
          | nil =>
              rw [loop, if_neg unsignaled]
              exact ⟨rfl, empty, fun done => absurd done unsignaled⟩
          | cons reply replies =>
              rw [loop, if_neg unsignaled, List.take_succ_cons, List.headD_cons, List.tail_cons]
              cases given : (w.collect reply).result with
              | error fault =>
                  have kept := watcher_collect_of_error given
                  rw [driving_of_fault handle (fun _ => .draining listeners) signaled _ given]
                  dsimp only
                  rw [given]
                  refine ⟨?_, (congrArg pending kept).trans empty, fun done => absurd (kept ▸ done) unsignaled⟩
                  show _ = (w.act (.owner (.collect reply))).watcher
                  rw [act_owner idle]
                  rfl
              | ok snapshot =>
                  subst same
                  have returned := loaded.round_drained empty reply
                  have attended := watcher_publishAmid loaded empty given
                  have mailboxes := loaded.length_mailboxes
                    (w.round (.draining w.mailboxes.length) reply) (by simp)
                  have grown := loaded.run (w.round (.draining w.mailboxes.length) reply)
                  have clear := clear_round idle (.draining w.mailboxes.length) reply returned
                  obtain ⟨watcher, left, counted⟩ := ih replies grown clear mailboxes
                  rw [driving_of_snapshot handle (fun _ => .draining w.mailboxes.length) signaled _
                    given]
                  dsimp only at attended ⊢
                  rw [given, returned, if_neg Bool.false_ne_true, run_append]
                  dsimp only
                  rw [attended]
                  refine ⟨watcher, left, ?_⟩
                  intro done
                  obtain ⟨complete, owners⟩ := counted done
                  refine ⟨complete, ?_⟩
                  rw [Action.owners_append, owners_round, List.length_append, owners]
                  show 2 + 2 * _ = 2 * (_ + 1)
                  omega

/-- Subscribing makes room for one more listener. -/
theorem run_subscribe {w : Watcher} (small : w.plan.capacity ≤ Mailbox.largestCapacity)
    (idle : w.publishing = false) :
    let after := w.subscribe.watcher
    (∃ listener, w.subscribe.result = some listener) ∧
      after = (w.act (.owner .subscribe)).watcher ∧ after.publishing = false ∧
      after.plan = w.plan ∧ after.mailboxes = w.mailboxes ++ [({} : Mailbox)] := by
  rw [act_owner idle, perform, subscribe, if_neg (Nat.not_lt.mpr small)]
  cases w.closed <;> exact ⟨⟨_, rfl⟩, rfl, idle, rfl, rfl⟩

/-- Listeners subscribe one after the other, by induction on their number. -/
theorem subscribeMany_eq (listeners : Nat) :
    ∀ {w : Watcher}, w.plan.capacity ≤ Mailbox.largestCapacity → w.publishing = false →
      let after := (w.run (List.replicate listeners (.owner .subscribe))).1
      w.subscribeMany listeners = some after ∧
        after.mailboxes = w.mailboxes ++ List.replicate listeners ({} : Mailbox) := by
  induction listeners with
  | zero =>
      intro w _ _
      exact ⟨rfl, (List.append_nil _).symm⟩
  | succ listeners ih =>
      intro w small idle
      obtain ⟨⟨listener, given⟩, acted, still, plan, mailboxes⟩ := run_subscribe small idle
      obtain ⟨later, all⟩ := ih (w := w.subscribe.watcher) (plan ▸ small) still
      rw [List.replicate_succ, run_cons, ← acted]
      refine ⟨?_, ?_⟩
      · rw [subscribeMany, given]
        exact later
      · rw [all, mailboxes, List.append_assoc, List.singleton_append, List.replicate_succ]

theorem length_mailboxes_serveAll (turn : List ReaderAction) :
    ∀ w : Watcher, (w.serveAll turn).1.mailboxes.length = w.mailboxes.length := by
  induction turn with
  | nil =>
      intro w
      rfl
  | cons action rest ih =>
      intro w
      obtain ⟨_, _, same, length⟩ := w.serve_frame action
      exact (ih _).trans ((congrArg (·.mailboxes.length) same).trans length)

section Finish

variable {w : Watcher} (opened : w.closed = false) (idle : w.publishing = false)

include opened idle

theorem finish_eq :
    w.finish.watcher = (w.run (.owner .close :: w.shut.drainAll.map .reader)).1 := by
  have closing : w.close.watcher = w.shut := by
    rw [close, opened]
    rfl
  rw [finish, run_cons, (act_close opened idle).1, run_readers, closing]

theorem length_mailboxes_finish :
    w.finish.watcher.mailboxes.length = w.mailboxes.length := by
  rw [finish_eq opened idle, run_cons, (act_close opened idle).1, run_readers,
    length_mailboxes_serveAll]
  rfl

/-- In the end whoever listens has read all that its mailbox took, and is at the end of the
stream. -/
theorem finish_of_listening {listener : Nat} (listening : w.isListening listener = true) :
    (w.finish.watcher.mailbox listener).read = (w.mailbox listener).taken ∧
      (w.finish.watcher.mailbox listener).stop (w.finish.watcher.isRegistered listener) =
        .closed := by
  obtain ⟨still, keeps, _⟩ := shut_run (.of_idle idle) (w.shut.drainAll.map .reader)
  have listens : (w.shut.run (w.shut.drainAll.map .reader)).1.isListening listener = true := by
    refine listening_run _ (fun action member => ?_) listening
    obtain ⟨_, _, rfl⟩ : ∃ reader, _ ∧ .drain reader = action := by
      simpa [drainAll] using member
    exact ⟨nofun, nofun⟩
  have kept : ((w.shut.run (w.shut.drainAll.map .reader)).1.mailbox listener).isDropped = false := by
    rw [isListening_eq, Mailbox.isListening, beq_iff_eq] at listens
    rw [Mailbox.isDropped, listens]
    rfl
  have taken := (keeps listener (hasDropped_of_kept kept)).2
  rw [finish_eq opened idle, run_cons, (act_close opened idle).1]
  rw [run_readers] at *
  refine ⟨?_, ?_⟩
  · rw [Mailbox.taken, held_drainAll, List.append_nil] at taken
    exact taken
  · rw [isRegistered, still.vacant]
    exact Mailbox.stop_of_kept kept

end Finish

/-- The loop behind a setup, for responses of which the last one and no other has a steady primary
deployment: it ends because the gate is signaled, with one collect for each response, and whoever
listened at its begin listens and took all its snapshots. -/
theorem loop_of_setup (plan : Plan) {setup : List Action}
    (opening : ∀ action ∈ Action.owners setup, action = .subscribe ∨ action = .takeHandle)
    {limit : Nat} {earlier : List ServiceDescription} {last : ServiceDescription}
    (extra : List Reply) (enough : (earlier ++ [last]).length ≤ limit)
    (readable : ∀ d ∈ earlier ++ [last], d.IsReadable)
    (unsteady : ∀ d ∈ earlier, ¬d.HasSteadyPrimary) (steady : last.HasSteadyPrimary) :
    let w := ((create plan).run setup).1
    let drive := w.loop limit ((earlier ++ [last]).map .described ++ extra)
    drive.ending = .complete ∧ drive.collects = (earlier ++ [last]).length ∧
      drive.watcher.pending = [] ∧ drive.watcher.publishing = false ∧
      drive.watcher.closed = false ∧ drive.watcher.mailboxes.length = w.mailboxes.length ∧
      ∃ snapshots, List.Forall₂ (fun d snapshot => snapshot.Shows d) (earlier ++ [last]) snapshots ∧
        snapshots.map (·.isComplete) = List.replicate earlier.length false ++ [true] ∧
        ∀ listener, w.isListening listener = true →
          drive.watcher.isListening listener = true ∧
            (drive.watcher.mailbox listener).taken = snapshots := by
  intro w drive
  obtain ⟨unbuffered, empty, _⟩ := run_setup plan opening
  have loaded : Loaded plan 0 w := ⟨setup, rfl, by rw [unbuffered]; rfl⟩
  have prepared : ((earlier ++ [last]).map Reply.described ++ extra).take limit =
      (earlier ++ [last]).map .described ++ extra.take (limit - (earlier ++ [last]).length) := by
    rw [List.take_append, List.take_of_length_le (by rwa [List.length_map]), List.length_map]
  obtain ⟨same, left, counted⟩ := loop_eq_driving 0 w.mailboxes.length limit
    ((earlier ++ [last]).map .described ++ extra) loaded empty rfl
  have driven := driving_setup plan opening 0 (fun _ => .draining w.mailboxes.length)
    (extra.take (limit - (earlier ++ [last]).length)) readable unsteady steady
  rw [prepared] at same counted
  have apart : ∀ listener action, .reader action ∈ w.driving 0 (fun _ => .draining w.mailboxes.length)
      ((earlier ++ [last]).map .described ++ extra.take (limit - (earlier ++ [last]).length)) →
        action ≠ .closeReading listener ∧ action ≠ .dropReading listener := by
    intro listener action member
    obtain ⟨_, found⟩ := mem_driving 0 _ member
    exact Interlude.apart_of_mem_draining found listener
  dsimp only at driven
  generalize w.driving 0 (fun _ => .draining w.mailboxes.length) _ = trace at *
  have returned : (w.run trace).1.publishing = false :=
    (loaded.run trace).idle (same ▸ left)
  obtain ⟨concluded, done, opened, complete, taken⟩ := driven.2 returned
  obtain ⟨ending, collects⟩ := counted (same ▸ done)
  have unsubscribed : .subscribe ∉ Action.owners trace := by
    rw [concluded.owners]
    simp
  have twice : (Action.owners trace).length = 2 * (earlier ++ [last]).length := by
    rw [concluded.owners]
    simp
    omega
  refine ⟨ending, Nat.eq_of_mul_eq_mul_left Nat.two_pos (collects.symm.trans twice), left, ?_⟩
  show (w.loop limit _).watcher.publishing = false ∧ _
  rw [same]
  refine ⟨returned, opened, loaded.length_mailboxes trace unsubscribed, _, concluded.shown,
    complete, ?_⟩
  intro listener listening
  have still := listening_run trace (apart listener) listening
  exact ⟨still, taken listener still⟩

end Watcher

/-- The loop of `Drive.run?` over some responses, of which the last one and no other has a steady
primary deployment: it collects once for each response, it ends because the gate is signaled, and
each listener has read one snapshot for each response, in order, and is at the end of the stream. -/
theorem drive_stops_at_completion (plan : Plan) (listeners limit : Nat)
    (earlier : List ServiceDescription) (last : ServiceDescription) (extra : List Reply) :
    let responses := earlier ++ [last]
    plan.capacity ≤ Mailbox.largestCapacity → responses.length ≤ limit →
    (∀ d ∈ responses, d.IsReadable) → (∀ d ∈ earlier, ¬d.HasSteadyPrimary) →
    last.HasSteadyPrimary →
      ∃ drive snapshots,
        Drive.run? plan listeners limit (responses.map .described ++ extra) = some drive ∧
          drive.ending = .complete ∧ drive.collects = responses.length ∧
          List.Forall₂ (fun d snapshot => snapshot.Shows d) responses snapshots ∧
          snapshots.map (·.isComplete) = List.replicate earlier.length false ++ [true] ∧
          drive.received = List.replicate listeners (snapshots, .closed) := by
  intro responses small enough readable unsteady steady
  obtain ⟨many, mailboxes⟩ :=
    Watcher.subscribeMany_eq listeners (w := .create plan) small rfl
  have opening : ∀ action ∈ Action.owners (List.replicate listeners (.owner .subscribe)),
      action = .subscribe ∨ action = .takeHandle := by
    intro action member
    exact .inl (by simpa using (List.mem_replicate.mp (Action.mem_owners.mp member)).2)
  have looped := Watcher.loop_of_setup plan opening extra enough readable unsteady steady
  generalize ((Watcher.create plan).run (List.replicate listeners (.owner .subscribe))).1 = w at *
  dsimp only at looped
  obtain ⟨ending, collects, _, idle, opened, length, snapshots, shown, complete, taken⟩ := looped
  let drive := w.loop limit (responses.map .described ++ extra)
  have given : Drive.run? plan listeners limit (responses.map .described ++ extra) =
      some { drive with
        watcher := drive.watcher.finish.watcher
        logs := drive.logs ++ drive.watcher.finish.logs } := by
    rw [Drive.run?, many]
    rfl
  refine ⟨_, snapshots, given, ending, collects, shown, complete, ?_⟩
  have boxes : drive.watcher.finish.watcher.mailboxes.length = listeners := by
    rw [Watcher.length_mailboxes_finish opened idle, length, mailboxes]
    simp [Watcher.create]
  rw [Drive.received, List.eq_replicate_iff, List.length_map, List.length_zipIdx]
  refine ⟨boxes, ?_⟩
  intro received member
  obtain ⟨⟨box, listener⟩, inside, rfl⟩ := List.mem_map.mp member
  have present : drive.watcher.finish.watcher.mailboxes[listener]? = some box :=
    List.mem_zipIdx_iff_getElem?.mp inside
  have known : w.mailboxes[listener]? = some {} := by
    have small := (List.getElem?_eq_some_iff.mp present).1
    rw [boxes] at small
    rw [mailboxes]
    exact List.getElem?_replicate_of_lt small
  have listening : w.isListening listener = true := by
    rw [Watcher.isListening, known]
    rfl
  obtain ⟨still, all⟩ := taken listener listening
  obtain ⟨read, stop⟩ := Watcher.finish_of_listening opened idle still
  rw [Watcher.mailbox_of_getElem? present] at read stop
  rw [← all, ← read, ← stop]

end RolloutWatch
