import RolloutWatch.Proofs.Watcher.Fanout
import RolloutWatch.Proofs.Watcher.Independence
import RolloutWatch.Session

/-!
# After the close

A watcher that was closed is `Shut`: it has no subscribers, and nothing makes it have
any again. A publish only empties the buffer then, and a mailbox changes only by what
its reader does. So what a mailbox held at the close is what its reader can still read,
and collecting goes on as if nothing had happened.
-/

namespace RolloutWatch

namespace Mailbox

theorem isDropped_receive (box : Mailbox) (attached : Bool) :
    (box.receive attached).1.isDropped = box.isDropped := by
  rw [isDropped, readingEnd_receive, isDropped]

theorem isDropped_closeReading (box : Mailbox) :
    box.closeReading.isDropped = box.isDropped := by
  unfold closeReading isDropped
  split
  · rfl
  · next present =>
      cases same : box.readingEnd with
      | listening | closed => rfl
      | dropped => exact absurd same present

/-- Without a writer a reading end that is kept comes to the end of the stream. -/
theorem stop_of_kept {box : Mailbox} (kept : box.isDropped = false) : box.stop false = .closed := by
  unfold stop
  unfold isDropped at kept
  split
  · rfl
  · rfl
  · next dropped =>
      rw [dropped] at kept
      cases kept

end Mailbox

namespace History

/-- What a step adds to the readings does not depend on the past. -/
theorem readings_note (h : History) (step : Step) (listener : Nat) :
    (h.note step).readings listener =
      h.readings listener ++ (({} : History).note step).readings listener := by
  obtain ⟨action, outcome⟩ := step
  cases outcome with
  | reader answer => cases action <;> simp [note, read]
  | collected result => cases result <;> simp [note, buffer]
  | subscribed listener => cases listener <;> simp [note, subscribe]
  | published | abandoned | closed | handle | unavailable => simp [note, publish]

theorem readings_foldl (listener : Nat) (steps : List Step) :
    ∀ h : History, (steps.foldl note h).readings listener =
      h.readings listener ++ (ofSteps steps).readings listener := by
  induction steps with
  | nil =>
      intro h
      exact (List.append_nil _).symm
  | cons step rest ih =>
      intro h
      have alone : (ofSteps (step :: rest)).readings listener =
          (({} : History).note step).readings listener ++ (ofSteps rest).readings listener :=
        ih _
      rw [List.foldl_cons, ih, readings_note, alone, List.append_assoc]

end History

namespace Watcher

theorem steps_append (w : Watcher) (first second : List Action) :
    w.steps (first ++ second) = w.steps first ++ (w.run first).1.steps second := by
  induction first generalizing w with
  | nil => rfl
  | cons action rest ih => rw [List.cons_append, steps_cons, ih, steps_cons, run_cons]; rfl

/-- What a listener reads in one run and then in another. -/
theorem readings_append (w : Watcher) (first second : List Action) (listener : Nat) :
    (w.history (first ++ second)).readings listener =
      (w.history first).readings listener ++
        ((w.run first).1.history second).readings listener := by
  rw [history, steps_append, History.ofSteps, List.foldl_append, History.readings_foldl]
  rfl

/-- The listener had a mailbox, and its reading end was dropped. -/
def hasDropped (w : Watcher) (listener : Nat) : Bool :=
  w.mailboxes[listener]?.any (·.isDropped)

theorem hasDropped_of_getElem? {w : Watcher} {listener : Nat} {box : Mailbox}
    (present : w.mailboxes[listener]? = some box) : w.hasDropped listener = box.isDropped := by
  rw [hasDropped, present]
  rfl

theorem hasDropped_of_le {w : Watcher} {listener : Nat} (absent : w.mailboxes.length ≤ listener) :
    w.hasDropped listener = false := by
  rw [hasDropped, List.getElem?_eq_none absent]
  rfl

/-- Whoever has a mailbox that was not dropped has dropped none. -/
theorem hasDropped_of_kept {w : Watcher} {listener : Nat}
    (kept : (w.mailbox listener).isDropped = false) : w.hasDropped listener = false := by
  cases present : w.mailboxes[listener]? with
  | none => rw [hasDropped, present]; rfl
  | some box => rwa [hasDropped_of_getElem? present, ← mailbox_of_getElem? present]

/-- From one watcher to the next, the reading end of a listener is still there and what its
mailbox took is the same, unless the listener has dropped it in the end. -/
def Keeps (w after : Watcher) (listener : Nat) : Prop :=
  after.hasDropped listener = false →
    w.hasDropped listener = false ∧ (after.mailbox listener).taken = (w.mailbox listener).taken

theorem Keeps.trans {w middle after : Watcher} {listener : Nat} (h₁ : Keeps w middle listener)
    (h₂ : Keeps middle after listener) : Keeps w after listener := by
  intro kept
  obtain ⟨between, later⟩ := h₂ kept
  obtain ⟨before, earlier⟩ := h₁ between
  exact ⟨before, later.trans earlier⟩

theorem Keeps.of_mailboxes {w after : Watcher} (same : after.mailboxes = w.mailboxes)
    (listener : Nat) : Keeps w after listener := by
  intro kept
  rw [hasDropped, same] at kept
  refine ⟨kept, ?_⟩
  rw [mailbox, same, mailbox]

/-- A reader keeps what its mailbox took, as long as it does not drop it. -/
theorem keeps_setMailbox {w : Watcher} {reader : Nat} {box : Mailbox} (listener : Nat)
    (same : box.isDropped = false →
      (w.mailbox reader).isDropped = false ∧ box.taken = (w.mailbox reader).taken) :
    Keeps w (w.setMailbox reader box) listener := by
  by_cases present : reader < w.mailboxes.length
  · by_cases here : listener = reader
    · subst here
      intro kept
      rw [hasDropped, setMailbox, List.getElem?_set_self present] at kept
      obtain ⟨before, taken⟩ := same kept
      rw [mailbox_setMailbox present]
      exact ⟨hasDropped_of_kept before, taken⟩
    · intro kept
      rw [hasDropped, setMailbox, List.getElem?_set_ne (Ne.symm here)] at kept
      exact ⟨kept, congrArg Mailbox.taken (mailbox_setMailbox_of_ne here)⟩
  · refine .of_mailboxes ?_ listener
    exact List.set_eq_of_length_le (Nat.le_of_not_lt present)

theorem keeps_serve (w : Watcher) (action : ReaderAction) (listener : Nat) :
    Keeps w (w.serve action).1 listener := by
  cases action with
  | receive reader =>
      exact keeps_setMailbox listener fun kept =>
        ⟨Mailbox.isDropped_receive _ _ ▸ kept, Mailbox.taken_receive _ _⟩
  | drain reader =>
      exact keeps_setMailbox listener fun kept =>
        ⟨kept, Mailbox.taken_drain _ (w.isRegistered reader)⟩
  | closeReading reader =>
      exact keeps_setMailbox listener fun kept =>
        ⟨Mailbox.isDropped_closeReading _ ▸ kept, Mailbox.taken_closeReading _⟩
  | dropReading reader => exact keeps_setMailbox listener nofun
  | isDone | cloneHandle | wait | startWait | pollWait => exact .of_mailboxes rfl listener

/-- A new mailbox has taken nothing. -/
theorem keeps_append (w : Watcher) (listener : Nat) :
    Keeps w { w with mailboxes := w.mailboxes ++ [({} : Mailbox)] } listener := by
  intro kept
  rw [Fanout.mailbox_append]
  split
  · next new =>
      have absent := Nat.le_of_eq new.symm
      exact ⟨hasDropped_of_le absent, by rw [mailbox_of_le absent]; rfl⟩
  · next old =>
      refine ⟨?_, rfl⟩
      by_cases inside : listener < w.mailboxes.length
      · rwa [hasDropped, List.getElem?_append_left inside] at kept
      · exact hasDropped_of_le (Nat.le_of_not_lt inside)

/-- The watcher was closed, and no publish waits. -/
structure Shut (w : Watcher) : Prop where
  closed : w.closed = true
  vacant : w.subscribers = []
  start : w.delivered = 0
  idle : w.publishing = false

/-- Where nobody is registered, snapshots leave the buffer and nothing else happens. -/
theorem Advances.of_vacant {w after : Watcher} {moves : List Move} (path : Advances w moves after)
    (vacant : w.subscribers = []) (start : w.delivered = 0) :
    after = { w with pending := after.pending } ∧ ∀ move ∈ moves, move = .retired := by
  induction path with
  | refl => exact ⟨rfl, nofun⟩
  | @cons w _ after move moves step _ ih =>
      cases step with
      | accepted _ next =>
          rw [vacant] at next
          cases next
      | refused _ next =>
          rw [vacant] at next
          cases next
      | retired =>
          obtain ⟨same, retired⟩ := ih vacant rfl
          refine ⟨?_, List.forall_mem_cons.mpr ⟨rfl, retired⟩⟩
          rw [← start] at same
          exact same
      | unregistered _ place =>
          rw [vacant] at place
          exact absurd place.symm (by simp)

/-- A poll of a publish after the close empties the buffer. -/
theorem Polled.discards {w : Watcher} {result : Watcher × List Move} (poll : Polled w result)
    (h : w.Shut) : result.1 = { w with pending := [] } ∧ ∀ move ∈ result.2, move = .retired := by
  cases poll with
  | returned path empty =>
      obtain ⟨same, retired⟩ := path.of_vacant h.vacant h.start
      refine ⟨?_, retired⟩
      rw [same, empty, ← h.idle]
  | waits path blocked =>
      -- Nobody is there to be waited for.
      obtain ⟨same, _⟩ := path.of_vacant h.vacant h.start
      obtain ⟨_, _, _, next, _⟩ := blocked
      rw [same] at next
      simp [h.vacant] at next

section Happens

variable {w after : Watcher} {action : Action} {outcome : Outcome}

/-- A publish after the close returns in its first poll. -/
theorem Happens.discards {moves : List Move} {completed : Bool}
    (happens : Happens w action after (.published moves completed)) (h : w.Shut) :
    after = { w with pending := [] } ∧ completed = true ∧ ∀ move ∈ moves, move = .retired := by
  cases happens with
  | nothing empty =>
      refine ⟨?_, rfl, nofun⟩
      rw [← empty, ← h.idle]
  | polled waiting poll =>
      obtain ⟨same, retired⟩ := poll.discards h
      refine ⟨same, ?_, retired⟩
      rw [same, h.idle]
      rfl

theorem Happens.shut (happens : Happens w action after outcome) (h : w.Shut) : after.Shut := by
  cases happens with
  | unavailable | refused | uncollected | closedAgain => exact h
  | late | collected | handle => exact ⟨h.closed, h.vacant, h.start, h.idle⟩
  | nothing | abandoned => exact ⟨h.closed, h.vacant, h.start, rfl⟩
  | registered opened => exact absurd (opened.symm.trans h.closed) Bool.noConfusion
  | closed opened => exact absurd (opened.symm.trans h.closed) Bool.noConfusion
  | polled waiting poll =>
      rw [(poll.discards h).1]
      exact ⟨h.closed, h.vacant, h.start, h.idle⟩
  | served action =>
      obtain ⟨_, _, same, _⟩ := w.serve_frame action
      rw [same]
      exact ⟨h.closed, h.vacant, h.start, h.idle⟩

/-- After the close, only readers take something out of a mailbox, and nobody puts anything in. -/
theorem Happens.keeps (happens : Happens w action after outcome) (h : w.Shut) (listener : Nat) :
    Keeps w after listener := by
  cases happens with
  | unavailable | refused | uncollected | collected | nothing | closedAgain | handle
  | abandoned => exact .of_mailboxes rfl listener
  | late => exact w.keeps_append listener
  | registered opened => exact absurd (opened.symm.trans h.closed) Bool.noConfusion
  | closed opened => exact absurd (opened.symm.trans h.closed) Bool.noConfusion
  | polled waiting poll =>
      rw [(poll.discards h).1]
      exact .of_mailboxes rfl listener
  | served action => exact w.keeps_serve action listener

theorem Happens.not_accepted (happens : Happens w action after outcome) (h : w.Shut)
    (listener : Nat) : .accepted listener ∉ outcome.moves := by
  cases outcome with
  | published moves completed =>
      intro member
      cases (happens.discards h).2.2 _ member
  | _ => exact List.not_mem_nil

end Happens

/-- What holds after the close holds behind every later run, by induction on the actions. -/
theorem shut_run {w : Watcher} (h : w.Shut) (later : List Action) :
    (w.run later).1.Shut ∧ (∀ listener, Keeps w (w.run later).1 listener) ∧
      ∀ step ∈ w.steps later, ∀ listener, .accepted listener ∉ step.2.moves := by
  refine run_induction
    (P := fun past after => after.Shut ∧ (∀ listener, Keeps w after listener) ∧
      ∀ step ∈ past, ∀ listener, .accepted listener ∉ step.2.moves)
    ?_ [] ⟨h, fun listener => .of_mailboxes rfl listener, List.forall_mem_nil _⟩ later
  intro past after action ⟨shut, keeps, silent⟩
  have happens := happens_act after action
  refine ⟨happens.shut shut, fun listener => (keeps listener).trans (happens.keeps shut listener),
    ?_⟩
  intro step member
  obtain earlier | now := List.mem_append.mp member
  · exact silent step earlier
  · rw [List.mem_singleton.mp now]
    exact happens.not_accepted shut

/-- A collect that gives a snapshot puts it at the end of the buffer. -/
theorem pending_collect (w : Watcher) (reply : Reply) :
    (w.collect reply).watcher.pending =
      w.pending ++ (w.collect reply).result.toOption.toList := by
  cases result : (w.collect reply).result with
  | error fault =>
      rw [watcher_collect_of_error result]
      exact (List.append_nil _).symm
  | ok snapshot =>
      cases reply with
      | unanswered => cases result
      | failed => cases result
      | described description =>
          rw [collect] at result ⊢
          cases read : Deployment.ofDescriptions description.deployments with
          | error =>
              rw [read] at result
              cases result
          | ok deployments =>
              rw [read] at result
              cases result
              rfl

/-- What a listener has read behind a further run is what it had read and what it reads there. -/
theorem read_run (plan : Plan) (actions later : List Action) (listener : Nat) :
    let w := ((create plan).run actions).1
    ((w.run later).1.mailbox listener).read =
      (w.mailbox listener).read ++ (w.history later).readings listener := by
  intro w
  have before := (fanout_run plan actions).read listener
  have behind := (fanout_run plan (actions ++ later)).read listener
  rw [readings_append, ← before, run_append] at behind
  exact behind

theorem act_owner {w : Watcher} (idle : w.publishing = false) (action : OwnerAction) :
    w.act (.owner action) = w.perform action := by
  rw [act, idle]
  rfl

/-- The watcher behind its close. -/
def shut (w : Watcher) : Watcher :=
  { w with subscribers := [], delivered := 0, closed := true }

theorem Shut.of_idle {w : Watcher} (idle : w.publishing = false) : w.shut.Shut :=
  ⟨rfl, rfl, rfl, idle⟩

theorem act_close {w : Watcher} (opened : w.closed = false) (idle : w.publishing = false) :
    (w.act (.owner .close)).watcher = w.shut ∧ (w.act (.owner .close)).result = .closed := by
  rw [act_owner idle, perform, close, opened]
  exact ⟨rfl, rfl⟩

namespace Shut

variable {w : Watcher}

theorem act_collect (h : w.Shut) (reply : Reply) :
    w.act (.owner (.collect reply)) =
      { w.collect reply with result := .collected (w.collect reply).result } :=
  act_owner h.idle _

theorem act_close (h : w.Shut) :
    w.act (.owner .close) = { watcher := w, result := .closed } := by
  rw [act_owner h.idle, perform, close, if_pos h.closed]

/-- A publish returns at once. -/
theorem act_publish (h : w.Shut) :
    ∃ moves, (∀ move ∈ moves, move = .retired) ∧
      w.act (.owner .publish) =
        { watcher := { w with pending := [] }, result := .published moves true } := by
  have happens : Happens w (.owner .publish) w.publish.1
      (.published w.publish.2 !w.publish.1.publishing) := happens_publish h.idle
  obtain ⟨same, returned, retired⟩ := happens.discards h
  refine ⟨w.publish.2, retired, ?_⟩
  have silent : Move.logs w.publish.2 = [] := by
    rw [Move.logs, List.map_eq_nil_iff, List.filterMap_eq_nil_iff]
    intro move member
    rw [retired move member]
    rfl
  rw [act_owner h.idle, perform, published, same, silent, ← returned, ← same]

/-- Who subscribes now finds nothing, and nothing will come. -/
theorem act_subscribe (h : w.Shut) (small : w.plan.capacity ≤ Mailbox.largestCapacity) :
    w.act (.owner .subscribe) =
      { watcher := { w with mailboxes := w.mailboxes ++ [{}] }
        result := .subscribed (some w.mailboxes.length)
        logs := [.subscribedAfterClose] } := by
  rw [act_owner h.idle, perform, subscribe, if_neg (Nat.not_lt.mpr small), if_pos h.closed]

/-- A reader gets what is there, and then the end of the stream. -/
theorem drain (h : w.Shut) {listener : Nat} (kept : (w.mailbox listener).isDropped = false) :
    (w.serve (.drain listener)).2 = .drained (w.mailbox listener).held .closed := by
  have alone : w.isRegistered listener = false := by
    rw [isRegistered, h.vacant]
    rfl
  rw [serve, alone, Mailbox.drain, Mailbox.stop_of_kept kept]

theorem receive (h : w.Shut) {listener : Nat} (kept : (w.mailbox listener).isDropped = false)
    (empty : (w.mailbox listener).held = []) :
    (w.serve (.receive listener)).2 = .received (.error .closed) := by
  have alone : w.isRegistered listener = false := by
    rw [isRegistered, h.vacant]
    rfl
  rw [serve, alone, Mailbox.receive, empty, Mailbox.stop_of_kept kept]

/-- Who subscribes now is at the end of the stream. -/
theorem receive_late (h : w.Shut) :
    (({ w with mailboxes := w.mailboxes ++ [{}] } : Watcher).serve
      (.receive w.mailboxes.length)).2 = .received (.error .closed) := by
  have still : ({ w with mailboxes := w.mailboxes ++ [{}] } : Watcher).Shut :=
    ⟨h.closed, h.vacant, h.start, h.idle⟩
  have new := Fanout.mailbox_append w w.mailboxes.length
  rw [if_pos rfl] at new
  apply still.receive
  · rw [new]
    rfl
  · rw [new]

end Shut

/-- What a listener has read since the close, followed by what its mailbox holds, is what its
mailbox held at the close. -/
theorem readings_since_close (plan : Plan) (actions later : List Action) (listener : Nat) :
    let w := ((create plan).run actions).1
    let after := (w.shut.run later).1
    w.closed = false → w.publishing = false → (after.mailbox listener).isDropped = false →
      (w.shut.history later).readings listener ++ (after.mailbox listener).held =
        (w.mailbox listener).held := by
  intro w after opened idle kept
  have closing := act_close opened idle
  have read : ((w.run (.owner .close :: later)).1.mailbox listener).read =
      (w.mailbox listener).read ++ (w.history (.owner .close :: later)).readings listener :=
    read_run plan actions (.owner .close :: later) listener
  have unread : w.history (.owner .close :: later) = w.shut.history later := by
    rw [history, steps_cons, closing.1, closing.2]
    rfl
  rw [run_cons, closing.1, unread] at read
  have taken := ((shut_run (.of_idle idle) later).2.1 listener (hasDropped_of_kept kept)).2
  rw [Mailbox.taken, read, List.append_assoc] at taken
  exact List.append_cancel_left taken

/-- From every reachable state in which a watcher can be closed, also with a round half done that
was given up, the close leaves ledger, gate, buffer and warnings as they are, and whatever is done
later, no mailbox takes a snapshot again. A listener that keeps its reading end has read or can
read exactly what its mailbox held at the close, in order, and then it is at the end of the stream,
also if the watcher is dropped. Who subscribes after the close is there at once, is not registered
and uses up no number. A publish returns in its first poll, empties the buffer and warns about
nobody. Collects give what they would have given without the close, and what they give is buffered.
A further close does nothing. -/
theorem close_is_final (plan : Plan) (actions later : List Action) :
    let w := ((create plan).run actions).1
    let closed := (w.act (.owner .close)).watcher
    let after := (closed.run later).1
    w.closed = false → w.publishing = false →
      (closed.closed = true ∧ closed.ledger = w.ledger ∧ closed.gate = w.gate ∧
        closed.pending = w.pending ∧ closed.warnings = w.warnings) ∧
      (∀ step ∈ closed.steps later, ∀ listener, .accepted listener ∉ step.2.moves) ∧
      (∀ listener, (after.mailbox listener).isDropped = false →
        (closed.history later).readings listener ++ (after.mailbox listener).held =
            (w.mailbox listener).held ∧
          (after.serve (.drain listener)).2 = .drained (after.mailbox listener).held .closed ∧
          (after.drop.serve (.drain listener)).2 =
            .drained (after.mailbox listener).held .closed ∧
          ((after.mailbox listener).held = [] →
            (after.serve (.receive listener)).2 = .received (.error .closed))) ∧
      (plan.capacity ≤ Mailbox.largestCapacity →
        after.act (.owner .subscribe) =
            { watcher := { after with mailboxes := after.mailboxes ++ [{}] }
              result := .subscribed (some after.mailboxes.length)
              logs := [.subscribedAfterClose] } ∧
          after.subscribers = [] ∧
          ((after.act (.owner .subscribe)).watcher.serve (.receive after.mailboxes.length)).2 =
            .received (.error .closed)) ∧
      (∃ moves, (∀ move ∈ moves, move = .retired) ∧
        after.act (.owner .publish) =
          { watcher := { after with pending := [] }, result := .published moves true }) ∧
      (closed.collections later =
          (w.collectAll ((closed.collections later).map (·.reply))).2 ∧
        ∀ reply,
          after.act (.owner (.collect reply)) =
              { after.collect reply with result := .collected (after.collect reply).result } ∧
            (after.collect reply).watcher.pending =
              after.pending ++ (after.collect reply).result.toOption.toList) ∧
      after.act (.owner .close) = { watcher := after, result := .closed } := by
  intro w closed after opened idle
  have same : closed = w.shut := (act_close opened idle).1
  have shut : closed.Shut := same ▸ .of_idle idle
  obtain ⟨still, keeps, silent⟩ := shut_run shut later
  have abreast : Abreast closed w := same ▸ ⟨rfl, rfl, rfl, rfl, rfl⟩
  refine ⟨?_, silent, ?_, ?_, still.act_publish, ⟨(collections_run later abreast).1, ?_⟩,
    still.act_close⟩
  · rw [same]
    exact ⟨rfl, rfl, rfl, rfl, rfl⟩
  · intro listener kept
    have read : (closed.history later).readings listener ++ (after.mailbox listener).held =
        (w.mailbox listener).held := by
      have since := readings_since_close plan actions later listener opened idle
      rw [← (act_close opened idle).1] at since
      exact since kept
    have dropped : after.drop.Shut := ⟨still.closed, rfl, rfl, still.idle⟩
    exact ⟨read, still.drain kept, dropped.drain kept, still.receive kept⟩
  · intro small
    have fits : after.plan.capacity ≤ Mailbox.largestCapacity := by
      rw [plan_run, same]
      exact (plan_run (create plan) actions).symm ▸ small
    have late := still.act_subscribe fits
    refine ⟨late, still.vacant, ?_⟩
    rw [late]
    exact still.receive_late
  · intro reply
    exact ⟨still.act_collect reply, pending_collect after reply⟩

/-- What the owner still tries after the close: to complete the rollout, to publish, and to find
another listener, who looks for a snapshot. -/
def afterwards : List Action :=
  [.owner (.collect (.sample 3)), .owner .publish, .owner .subscribe, .reader (.receive 3),
    .owner .close, .owner (.collect (.sample 1))]

theorem close_is_final_halfDelivered :
    let w := ((create .sample).run halfDelivered).1
    let closed := (w.act (.owner .close)).watcher
    let after := (closed.run afterwards).1
    (w.closed = false ∧ w.publishing = false ∧ w.delivered = 1 ∧ w.pending.length = 2) ∧
      closed.pending = w.pending ∧
      (after.gate.signaled = true ∧ after.pending.length = 1 ∧ (w.mailbox 0).held.length = 1) ∧
      (closed.history afterwards).readings 0 ++ (after.mailbox 0).held = (w.mailbox 0).held ∧
      (after.serve (.drain 0)).2 = .drained (after.mailbox 0).held .closed ∧
      ((after.act (.owner .subscribe)).watcher.serve (.receive after.mailboxes.length)).2 =
        .received (.error .closed) ∧
      after.act (.owner .close) = { watcher := after, result := .closed } := by
  have opened : ((create .sample).run halfDelivered).1.closed = false := by decide +kernel
  have idle : ((create .sample).run halfDelivered).1.publishing = false := by decide +kernel
  have final := close_is_final .sample halfDelivered afterwards opened idle
  dsimp only at final ⊢
  obtain ⟨kept, _, read, late, _, _, again⟩ := final
  obtain ⟨held, drained, _, _⟩ := read 0 (by decide +kernel)
  exact ⟨by decide +kernel, kept.2.2.2.1, by decide +kernel, held, drained,
    (late (by decide)).2.2, again⟩

end Watcher

end RolloutWatch
