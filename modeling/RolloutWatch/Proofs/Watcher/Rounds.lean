import RolloutWatch.Proofs.Watcher.Completion
import RolloutWatch.Proofs.Watcher.Missing

/-!
# Rounds of collecting and publishing

The owner of a watcher collects and publishes in turn. In between, and whenever the publish
waits, readers do what they like. A round is the list of actions that comes of this: one
collect and one publish of the owner, and no other action of the owner. If nothing was in
the buffer before and the publish returns, there is nothing in it again, and the round
buffered the snapshot of its collect.
-/

namespace RolloutWatch

/-- What the owner does in an action. -/
def Action.owner? : Action → Option OwnerAction
  | owner action => some action
  | _ => none

/-- What the owner does in some actions. -/
def Action.owners (actions : List Action) : List OwnerAction :=
  actions.filterMap owner?

namespace Action

@[simp] theorem owners_nil : owners [] = [] := rfl

@[simp] theorem owners_owner (action : OwnerAction) (rest : List Action) :
    owners (.owner action :: rest) = action :: owners rest := rfl

@[simp] theorem owners_resume (rest : List Action) : owners (.resume :: rest) = owners rest := rfl

@[simp] theorem owners_append (first second : List Action) :
    owners (first ++ second) = owners first ++ owners second :=
  List.filterMap_append

@[simp] theorem owners_readers (turn : List ReaderAction) : owners (turn.map .reader) = [] := by
  rw [owners, List.filterMap_map, List.filterMap_eq_nil_iff]
  exact fun _ _ => rfl

theorem mem_owners {actions : List Action} {action : OwnerAction} :
    action ∈ owners actions ↔ .owner action ∈ actions := by
  rw [owners, List.mem_filterMap]
  constructor
  · rintro ⟨found, member, same⟩
    cases found with
    | owner other => cases same; exact member
    | resume | abandon | reader => cases same
  · intro member
    exact ⟨_, member, rfl⟩

theorem not_mem_owners_cons {action : Action} {rest : List Action} {avoided : OwnerAction} :
    avoided ∉ owners (action :: rest) ↔ action ≠ .owner avoided ∧ avoided ∉ owners rest := by
  rw [mem_owners, mem_owners, List.mem_cons, not_or, ne_comm]

end Action

namespace Watcher

/-- Readers who act one after the other are a run. -/
theorem run_readers (turn : List ReaderAction) :
    ∀ w : Watcher, (w.run (turn.map .reader)).1 = (w.serveAll turn).1 := by
  induction turn with
  | nil =>
      intro w
      rfl
  | cons action rest ih =>
      intro w
      exact ih (w.serve action).1

theorem buffered_append (w : Watcher) (first second : List Action) :
    w.buffered (first ++ second) = w.buffered first ++ (w.run first).1.buffered second := by
  rw [buffered_eq_filterMap, steps_append, List.filterMap_append, ← buffered_eq_filterMap,
    ← buffered_eq_filterMap]

/-- Only collects buffer something. -/
theorem buffered_of_owners {actions : List Action} :
    ∀ {w : Watcher}, (∀ reply, .collect reply ∉ Action.owners actions) → w.buffered actions = [] := by
  induction actions with
  | nil =>
      intro w _
      rfl
  | cons action rest ih =>
      intro w none
      have apart (reply : Reply) := Action.not_mem_owners_cons.mp (none reply)
      rw [buffered_cons, ih fun reply => (apart reply).2, List.append_nil,
        Option.toList_eq_nil_iff, Option.eq_none_iff_forall_ne_some]
      intro snapshot buffered
      obtain ⟨description, _, same, _⟩ := (happens_act w action).recorded buffered
      exact (apart (.described description)).1 same

/-- Only a close closes a watcher. -/
theorem closed_run {actions : List Action} :
    ∀ {w : Watcher}, .close ∉ Action.owners actions → (w.run actions).1.closed = w.closed := by
  induction actions with
  | nil =>
      intro w _
      rfl
  | cons action rest ih =>
      intro w none
      obtain ⟨apart, behind⟩ := Action.not_mem_owners_cons.mp none
      rw [run_cons, ih behind]
      have happens := happens_act w action
      generalize (w.act action).watcher = after at happens
      generalize (w.act action).result = outcome at happens
      cases happens with
      | unavailable | refused | late | registered | uncollected | collected | nothing
      | closedAgain | handle | abandoned => rfl
      | polled waiting poll => exact poll.frame.closed
      | closed => exact absurd rfl apart
      | served action =>
          obtain ⟨_, _, same, _⟩ := w.serve_frame action
          rw [same]

/-- Only those who subscribe have a start. -/
theorem starts_foldl {actions : List Action} :
    ∀ {w : Watcher} (h : History), .subscribe ∉ Action.owners actions →
      ((w.steps actions).foldl History.note h).starts = h.starts := by
  induction actions with
  | nil =>
      intro w h _
      rfl
  | cons action rest ih =>
      intro w h none
      obtain ⟨apart, behind⟩ := Action.not_mem_owners_cons.mp none
      rw [steps_cons, List.foldl_cons, ih _ behind]
      have happens := happens_act w action
      generalize (w.act action).watcher = after at happens
      generalize (w.act action).result = outcome at happens
      cases happens with
      | late | registered => exact absurd rfl apart
      | unavailable | refused | uncollected | collected | nothing | polled | closedAgain | closed
      | handle | abandoned | served => rfl

theorem starts_append {w : Watcher} {first second : List Action}
    (none : .subscribe ∉ Action.owners second) :
    (w.history (first ++ second)).starts = (w.history first).starts := by
  rw [history, steps_append, History.ofSteps, List.foldl_append]
  exact starts_foldl _ none

theorem isListening_of_readingEnd_eq {w after : Watcher} {listener : Nat}
    (same : (after.mailbox listener).readingEnd = (w.mailbox listener).readingEnd) :
    after.isListening listener = w.isListening listener := by
  rw [isListening_eq, isListening_eq, Mailbox.isListening, Mailbox.isListening, same]

/-- Whoever puts a mailbox with the same reading end in the place of another changes no reading
end. -/
theorem readingEnd_setMailbox {w : Watcher} {reader : Nat} {box : Mailbox}
    (same : box.readingEnd = (w.mailbox reader).readingEnd) (listener : Nat) :
    ((w.setMailbox reader box).mailbox listener).readingEnd =
      (w.mailbox listener).readingEnd :=
  related_setMailbox (R := fun before after => after.readingEnd = before.readingEnd)
    (fun _ => rfl) same listener

/-- A reading end stays as it is, unless its reader closes or drops it. -/
theorem isListening_serve (w : Watcher) {action : ReaderAction} {listener : Nat}
    (apart : action ≠ .closeReading listener ∧ action ≠ .dropReading listener) :
    (w.serve action).1.isListening listener = w.isListening listener := by
  apply isListening_of_readingEnd_eq
  cases action with
  | receive reader => exact readingEnd_setMailbox (Mailbox.readingEnd_receive ..) listener
  | drain reader => exact readingEnd_setMailbox (Mailbox.readingEnd_drain _ (w.isRegistered reader)) listener
  | closeReading reader =>
      have other : listener ≠ reader := fun same => apart.1 (same ▸ rfl)
      exact congrArg _ (mailbox_setMailbox_of_ne other)
  | dropReading reader =>
      have other : listener ≠ reader := fun same => apart.2 (same ▸ rfl)
      exact congrArg _ (mailbox_setMailbox_of_ne other)
  | isDone | cloneHandle | wait | startWait | pollWait => rfl

/-- Whoever listens goes on listening, unless its reader closes or drops the reading end. -/
theorem listening_run {listener : Nat} (actions : List Action) :
    ∀ {w : Watcher}, (∀ action, .reader action ∈ actions →
        action ≠ .closeReading listener ∧ action ≠ .dropReading listener) →
      w.isListening listener = true → (w.run actions).1.isListening listener = true := by
  induction actions with
  | nil =>
      intro w _ listening
      exact listening
  | cons action rest ih =>
      intro w apart listening
      refine ih (fun other member => apart other (List.mem_cons_of_mem _ member)) ?_
      have happens := happens_act w action
      generalize (w.act action).watcher = after at happens ⊢
      generalize (w.act action).result = outcome at happens
      cases happens with
      | unavailable | refused | uncollected | collected | nothing | closedAgain | closed | handle
      | abandoned => exact listening
      | late | registered =>
          have present : listener < w.mailboxes.length := by
            by_contra absent
            rw [isListening_eq, mailbox_of_le (Nat.le_of_not_lt absent)] at listening
            cases listening
          rw [isListening, List.getElem?_append_left present]
          exact listening
      | polled waiting poll =>
          cases poll with
          | returned path | waits path => exact (path.isListening_eq listener).trans listening
      | served action =>
          exact (w.isListening_serve (apart action List.mem_cons_self)).trans listening

/-- As long as no more snapshots were buffered than a mailbox takes, no publish waits. -/
theorem publish_returns_of_room {plan : Plan} {actions : List Action}
    (idle : ((create plan).run actions).1.publishing = false)
    (few : ((create plan).buffered actions).length ≤ plan.capacity) :
    ((create plan).run actions).1.publish.1.publishing = false := by
  have fan := fanout_run plan actions
  have ok := (sound_run plan actions).orderly
  have within := within_run plan actions
  have same_plan : ((create plan).run actions).1.plan = plan := plan_run (create plan) actions
  have fits := fits_run plan actions
  generalize ((create plan).run actions).1 = w at *
  by_cases waiting : w.pending = []
  · rw [publish, if_pos (List.isEmpty_iff.mpr waiting)]
    exact idle
  · refine ((polled_publish waiting).returns_iff fan ok fits).mpr ?_
    intro place listener here listening
    obtain ⟨start, known⟩ := fan.exists_start ok (List.mem_of_getElem? here)
    have bound := within place listener start here known
    have most := w.ahead_le_one place
    have front := fan.retired_lt waiting
    have length := congrArg List.length fan.buffer
    rw [Mailbox.taken, List.length_append] at bound
    rw [List.length_drop] at length
    rw [allowance, free, same_plan]
    change ((create plan).history actions).buffered.length ≤ _ at few
    omega

/-- What happens until a publish returns: readers take their turns, and the publish is resumed
behind each of them. If it still waits behind the last turn, it goes on waiting. -/
def attending (w : Watcher) : List (List ReaderAction) → List Action
  | [] => []
  | turn :: turns =>
    if w.publishing then
      let polling := turn.map .reader ++ [.resume]
      polling ++ (w.run polling).1.attending turns
    else []

theorem owners_attending (turns : List (List ReaderAction)) :
    ∀ w : Watcher, Action.owners (w.attending turns) = [] := by
  induction turns with
  | nil =>
      intro w
      rfl
  | cons turn turns ih =>
      intro w
      rw [attending]
      split
      · simp [ih]
      · rfl

theorem mem_attending {action : ReaderAction} (turns : List (List ReaderAction)) :
    ∀ {w : Watcher}, .reader action ∈ w.attending turns → action ∈ turns.flatten := by
  induction turns with
  | nil => exact nofun
  | cons turn turns ih =>
      intro w member
      rw [attending] at member
      split at member
      · rw [List.flatten_cons, List.mem_append]
        obtain now | later := List.mem_append.mp member
        · refine .inl ?_
          simpa using now
        · exact .inr (ih later)
      · cases member

/-- Unless a publish waits, there is nothing in the buffer. -/
def Clear (w : Watcher) : Prop :=
  w.publishing = false → w.pending = []

theorem clear_published {result : Watcher × List Move} {w : Watcher} {action : Action}
    (happens : Happens w action result.1 (.published result.2 !result.1.publishing)) :
    result.1.Clear := by
  intro returned
  exact happens.published.2.2 (by rw [returned]; rfl)

theorem clear_attending (turns : List (List ReaderAction)) :
    ∀ {w : Watcher}, w.Clear → (w.run (w.attending turns)).1.Clear := by
  induction turns with
  | nil =>
      intro w clear
      exact clear
  | cons turn turns ih =>
      intro w clear
      rw [attending]
      split
      · next publishing =>
          rw [run_append]
          apply ih
          obtain ⟨mailboxes, gate, same⟩ := serveAll_frame turn w
          have still : (w.serveAll turn).1.publishing = true := by rw [same]; exact publishing
          rw [run_append, run_readers, run_cons, run_nil, act, if_pos still]
          exact clear_published (@happens_resume _ still .resume)
      · exact clear

end Watcher

/-- What readers do in a round. -/
structure Interlude where
  /-- Before the owner looks at the gate and collects. -/
  before : List ReaderAction := []
  /-- Between the collect and the publish. -/
  between : List ReaderAction := []
  /-- The turns that they take while the publish waits. -/
  waiting : List (List ReaderAction) := []

/-- All that readers may do in a round. -/
def Interlude.actions (interlude : Interlude) : List ReaderAction :=
  interlude.before ++ interlude.between ++ interlude.waiting.flatten

/-- The owner collects, with readers before and behind. -/
def Interlude.collecting (interlude : Interlude) (reply : Reply) : List Action :=
  interlude.before.map .reader ++ .owner (.collect reply) :: interlude.between.map .reader

namespace Watcher

/-- The owner collects and publishes. -/
def round (w : Watcher) (interlude : Interlude) (reply : Reply) : List Action :=
  let collecting := interlude.collecting reply
  let begun := ((w.run collecting).1.act (.owner .publish)).watcher
  collecting ++ .owner .publish :: begun.attending interlude.waiting

@[simp] theorem owners_round (w : Watcher) (interlude : Interlude) (reply : Reply) :
    Action.owners (w.round interlude reply) = [.collect reply, .publish] := by
  simp [round, Interlude.collecting, owners_attending]

theorem mem_round {w : Watcher} {interlude : Interlude} {reply : Reply} {action : ReaderAction}
    (member : .reader action ∈ w.round interlude reply) : action ∈ interlude.actions := by
  rw [Interlude.actions, List.mem_append, List.mem_append]
  obtain collecting | publishing := List.mem_append.mp member
  · refine .inl ?_
    simpa [Interlude.collecting] using collecting
  · exact .inr (mem_attending _ ((List.mem_cons.mp publishing).resolve_left nofun))

theorem publishing_readers (w : Watcher) (turn : List ReaderAction) :
    (w.run (turn.map .reader)).1.publishing = w.publishing := by
  obtain ⟨_, _, same⟩ := serveAll_frame turn w
  rw [run_readers, same]

theorem publishing_collect (w : Watcher) (reply : Reply) :
    (w.collect reply).watcher.publishing = w.publishing := by
  have happens := happens_collect w reply
  generalize (w.collect reply).watcher = after at happens ⊢
  generalize (w.collect reply).result = result at happens
  cases happens <;> rfl

section Round

variable {w : Watcher} (idle : w.publishing = false) (interlude : Interlude)

include idle

theorem idle_collecting (reply : Reply) :
    (w.run (interlude.collecting reply)).1.publishing = false := by
  have ready := (w.publishing_readers interlude.before).trans idle
  rw [Interlude.collecting, run_append, run_cons, act_owner ready, publishing_readers, perform,
    publishing_collect]
  exact ready

/-- A round that comes to its end leaves nothing in the buffer. -/
theorem clear_round (reply : Reply) : (w.run (w.round interlude reply)).1.Clear := by
  have ready := idle_collecting idle interlude reply
  rw [round, run_append, run_cons]
  apply clear_attending
  rw [act_owner ready]
  exact clear_published (@happens_publish _ ready (.owner .publish))

section Read

variable {description : ServiceDescription} {deployments : List Deployment}
  (read : Deployment.ofDescriptions description.deployments = .ok deployments)

include read

theorem buffered_collecting :
    ∃ snapshot : Snapshot, snapshot.deployments = deployments ∧
      w.buffered (interlude.collecting (.described description)) = [snapshot] := by
  have ready := (w.publishing_readers interlude.before).trans idle
  rw [Interlude.collecting, buffered_append, buffered_of_owners (by simp), List.nil_append,
    buffered_cons, act_owner ready, perform, collect, read, buffered_of_owners (by simp)]
  exact ⟨_, rfl, rfl⟩

/-- A round buffers a snapshot of its description. -/
theorem buffered_round :
    ∃ snapshot : Snapshot, snapshot.deployments = deployments ∧
      w.buffered (w.round interlude (.described description)) = [snapshot] := by
  obtain ⟨snapshot, same, buffered⟩ := buffered_collecting idle interlude read
  refine ⟨snapshot, same, ?_⟩
  rw [round, buffered_append, buffered, buffered_of_owners (by simp [owners_attending]),
    List.append_nil]

end Read

end Round

/-- A new watcher that buffered so many snapshots came to this one. -/
def Loaded (plan : Plan) (count : Nat) (w : Watcher) : Prop :=
  ∃ actions, ((create plan).run actions).1 = w ∧ ((create plan).buffered actions).length = count

namespace Loaded

variable {plan : Plan} {count : Nat} {w : Watcher}

theorem run (h : Loaded plan count w) (actions : List Action) :
    Loaded plan (count + (w.buffered actions).length) (w.run actions).1 := by
  obtain ⟨past, rfl, rfl⟩ := h
  exact ⟨past ++ actions, by rw [run_append], by rw [buffered_append, List.length_append]⟩

theorem owned (h : Loaded plan count w) : w.gate.owned = true := by
  obtain ⟨past, rfl, _⟩ := h
  exact owned_run plan past

/-- Nobody waits for anything where nothing is in the buffer. -/
theorem idle (h : Loaded plan count w) (empty : w.pending = []) : w.publishing = false := by
  obtain ⟨past, rfl, _⟩ := h
  rw [Bool.eq_false_iff]
  intro publishing
  exact (sound_run plan past).waiting publishing empty

theorem publish_returns (h : Loaded plan count w) (idle : w.publishing = false)
    (few : count ≤ plan.capacity) : (w.act (.owner .publish)).watcher.publishing = false := by
  obtain ⟨past, rfl, rfl⟩ := h
  rw [act_owner idle]
  exact publish_returns_of_room idle few

/-- A round comes to its end if there is room for its snapshot beside all the earlier ones. -/
theorem round_returns (h : Loaded plan count w) (idle : w.publishing = false)
    (interlude : Interlude) {description : ServiceDescription} {deployments : List Deployment}
    (read : Deployment.ofDescriptions description.deployments = .ok deployments)
    (room : count < plan.capacity) :
    (w.run (w.round interlude (.described description))).1.publishing = false := by
  have collected := h.run (interlude.collecting (.described description))
  obtain ⟨snapshot, _, buffered⟩ := buffered_collecting idle interlude read
  rw [buffered] at collected
  have returned := collected.publish_returns (idle_collecting idle interlude _) room
  have unattended : (((w.run (interlude.collecting (.described description))).1.act
      (.owner .publish)).watcher.attending interlude.waiting) = [] := by
    cases interlude.waiting with
    | nil => rfl
    | cons => rw [attending, if_neg (by rw [returned]; decide)]
  rw [round, unattended, run_append]
  exact returned

end Loaded

end Watcher

end RolloutWatch
