import Mathlib.Data.List.Induction
import RolloutWatch.Proofs.Watcher.Losing
import RolloutWatch.Proofs.Watcher.Polling
import RolloutWatch.Session

/-!
# Where a round stands

Between two actions `delivered` is zero, or it is the place of a subscriber who is still to
be offered the front snapshot. Those before have it, so that a publish that goes on from
there deals with everybody else before the snapshot leaves the buffer. A publish waits only
for that subscriber, at a mailbox that was full when it began to wait, and while it waits
only readers do anything.
-/

namespace RolloutWatch

namespace Move

/-- The listener that a move deals with. -/
def listener? : Move → Option Nat
  | accepted listener => some listener
  | refused listener => some listener
  | retired => none
  | unregistered listener => some listener

/-- The listeners that are dealt with before a snapshot leaves the buffer. -/
def inRound (moves : List Move) : List Nat :=
  (moves.takeWhile (· ≠ retired)).filterMap listener?

@[simp] theorem inRound_retired (moves : List Move) : inRound (retired :: moves) = [] := rfl

theorem inRound_cons {move : Move} (stays : move ≠ retired) (moves : List Move) :
    inRound (move :: moves) = move.listener?.toList ++ inRound moves := by
  rw [inRound, List.takeWhile_cons_of_pos (by simpa using stays), List.filterMap_cons]
  cases move.listener? <;> rfl

end Move

namespace Watcher

/-- As long as no snapshot leaves the buffer, a move takes out of the line whom it deals with. -/
theorem Advance.line_perm {w after : Watcher} {move : Move} (h : Advance w move after)
    (stays : move ≠ .retired) : w.line.Perm (move.listener?.toList ++ after.line) := by
  cases h with
  | accepted _ next | refused _ next =>
      obtain ⟨inside, rfl⟩ := List.getElem?_eq_some_iff.mp next
      exact .of_eq (List.drop_eq_getElem_cons inside)
  | retired => exact absurd rfl stays
  | unregistered start place =>
      simp only [line, start, List.drop_zero, place]
      exact List.perm_middle

/-- In a chain of moves everybody in line is dealt with before a snapshot leaves the buffer, and
where none does, the others are still in line. -/
theorem Advances.line_perm {w after : Watcher} {moves : List Move} (h : Advances w moves after) :
    w.line.Perm (Move.inRound moves ++ if .retired ∈ moves then [] else after.line) := by
  induction h with
  | refl => exact .refl _
  | @cons w middle after move moves step _ ih =>
      by_cases leaves : move = .retired
      · subst leaves
        cases step with
        | retired _ all =>
            -- A snapshot leaves the buffer when nobody is left in line.
            rw [line, List.drop_eq_nil_of_le all, Move.inRound_retired, if_pos List.mem_cons_self]
            exact .refl _
      · have same : .retired ∈ move :: moves ↔ .retired ∈ moves := by
          rw [List.mem_cons, or_iff_right (Ne.symm leaves)]
        rw [Move.inRound_cons leaves, List.append_assoc]
        simp only [same]
        exact (step.line_perm leaves).trans (ih.append_left _)

theorem Happens.line_perm {w after : Watcher} {action : Action} {moves : List Move}
    {completed : Bool} (happens : Happens w action after (.published moves completed)) :
    w.line.Perm (Move.inRound moves ++ if .retired ∈ moves then [] else after.line) := by
  cases happens with
  | nothing => exact .refl _
  | polled _ poll =>
      cases poll with
      | returned path | waits path => exact path.line_perm

/-- A poll after which the publish waits has come to a full mailbox. -/
theorem Happens.blocked {w after : Watcher} {action : Action} {moves : List Move}
    (happens : Happens w action after (.published moves false)) : after.Blocked := by
  generalize waits : Outcome.published moves false = outcome at happens
  cases happens with
  | polled _ poll =>
      cases poll with
      | returned => cases waits
      | waits _ blocked => exact ⟨blocked.waiting, blocked.full⟩
  | _ => cases waits

/-- A publish that waits was polled in the action, or it waited before. -/
theorem Happens.waits {w after : Watcher} {action : Action} {outcome : Outcome}
    (happens : Happens w action after outcome) (waits : after.publishing = true) :
    (∃ moves, outcome = .published moves false) ∨ w.publishing = true := by
  cases happens with
  | unavailable | refused | late | registered | uncollected | collected | closedAgain | closed
  | handle => exact .inr waits
  | nothing | abandoned => cases waits
  | polled _ poll =>
      cases poll with
      | returned => cases waits
      | waits => exact .inl ⟨_, rfl⟩
  | served action =>
      obtain ⟨_, _, same, _⟩ := w.serve_frame action
      rw [same] at waits
      exact .inr waits

/-- The round stands where it stood: nothing but mailboxes and the gate has changed. -/
def SameRound (w after : Watcher) : Prop :=
  ∃ mailboxes gate, after = { w with mailboxes, gate }

namespace SameRound

variable {w middle after : Watcher}

theorem refl (w : Watcher) : SameRound w w :=
  ⟨w.mailboxes, w.gate, rfl⟩

theorem trans (h₁ : SameRound w middle) (h₂ : SameRound middle after) : SameRound w after := by
  obtain ⟨_, _, rfl⟩ := h₁
  obtain ⟨mailboxes, gate, rfl⟩ := h₂
  exact ⟨mailboxes, gate, rfl⟩

/-- The front snapshot is still to be offered to the same subscriber. -/
theorem next (h : SameRound w after) :
    after.subscribers[after.delivered]? = w.subscribers[w.delivered]? := by
  obtain ⟨_, _, rfl⟩ := h
  rfl

end SameRound

theorem act_resume {w : Watcher} (publishing : w.publishing = true) :
    w.act .resume = published w.resume :=
  if_pos publishing

/-- What an action can be behind which a publish waits: a poll of it, or, while it waited before,
what a reader does or what is not available. -/
theorem act_waits {w : Watcher} {action : Action}
    (waits : (w.act action).watcher.publishing = true) :
    (∃ moves, (w.act action).result = .published moves false) ∨
      w.publishing = true ∧ SameRound w (w.act action).watcher ∧
        ((w.act action).result = .unavailable ∨
          ∃ answer, (w.act action).result = .reader answer) := by
  by_cases publishing : w.publishing = true
  · cases action with
    | owner action =>
        have kept : w.act (.owner action) = { watcher := w, result := .unavailable } :=
          if_pos publishing
        rw [kept]
        exact .inr ⟨publishing, .refl w, .inl rfl⟩
    | resume =>
        rw [act_resume publishing] at waits ⊢
        exact .inl ⟨w.resume.2, congrArg (Outcome.published _ !·) waits⟩
    | abandon =>
        have given : w.act .abandon = { watcher := w.abandon, result := .abandoned } :=
          if_pos publishing
        rw [given] at waits
        cases waits
    | reader action =>
        obtain ⟨mailboxes, gate, same, _⟩ := w.serve_frame action
        exact .inr ⟨publishing, ⟨mailboxes, gate, same⟩, .inr ⟨_, rfl⟩⟩
  · exact .inl (((happens_act w action).waits waits).resolve_right publishing)

/-- A publish that waits has waited since some poll, which came to a full mailbox. Since then
readers have acted, and whatever else was tried was not available. The induction takes the last
action off. -/
theorem exists_poll_of_waiting {w : Watcher} (idle : w.publishing = false) (actions : List Action)
    (waits : (w.run actions).1.publishing = true) :
    ∃ before poll during, actions = before ++ poll :: during ∧
      let paused := (w.run before).1.act poll
      (∃ moves, paused.result = .published moves false) ∧ paused.watcher.Blocked ∧
        SameRound paused.watcher (w.run actions).1 ∧
        ∀ step ∈ paused.watcher.steps during,
          step.2 = .unavailable ∨ ∃ answer, step.2 = .reader answer := by
  induction actions using List.reverseRecOn with
  | nil => exact absurd (idle.symm.trans waits) Bool.noConfusion
  | append_singleton actions action ih =>
      have last : (w.run (actions ++ [action])).1 = ((w.run actions).1.act action).watcher := by
        rw [run_append]
        rfl
      rw [last] at waits ⊢
      obtain ⟨moves, polled⟩ | ⟨earlier, kept, aside⟩ := act_waits waits
      · have happens := happens_act (w.run actions).1 action
        rw [polled] at happens
        exact ⟨actions, action, [], rfl, ⟨moves, polled⟩, happens.blocked, .refl _,
          fun _ member => absurd member List.not_mem_nil⟩
      · obtain ⟨before, poll, during, rfl, polled, blocked, same, silent⟩ := ih earlier
        have here : (((w.run before).1.act poll).watcher.run during).1 =
            (w.run (before ++ poll :: during)).1 := by
          rw [run_append]
          rfl
        refine ⟨before, poll, during ++ [action], by simp, polled, blocked, same.trans kept, ?_⟩
        rw [steps_append, here]
        intro step member
        obtain before | now := List.mem_append.mp member
        · exact silent step before
        · rw [List.mem_singleton.mp now]
          exact aside

/-- In use, a publish waits for the subscriber at `delivered`. The poll since which it has waited
found this one listening and its mailbox full. -/
theorem waits_for_full (plan : Plan) (actions : List Action) :
    let start := create plan
    let w := (start.run actions).1
    w.publishing = true →
      ∃ before poll during moves listener, actions = before ++ poll :: during ∧
        let paused := (start.run before).1.act poll
        paused.result = .published moves false ∧
        paused.watcher.subscribers[paused.watcher.delivered]? = some listener ∧
        paused.watcher.isListening listener = true ∧
        (paused.watcher.mailbox listener).held.length = plan.capacity ∧
        (∀ step ∈ paused.watcher.steps during,
          step.2 = .unavailable ∨ ∃ answer, step.2 = .reader answer) ∧
        w.subscribers[w.delivered]? = some listener := by
  intro start w waits
  obtain ⟨before, poll, during, same, ⟨moves, polled⟩, blocked, kept, silent⟩ :=
    exists_poll_of_waiting (w := create plan) rfl actions waits
  obtain ⟨_, listener, box, next, present, listening, full⟩ := blocked
  have planned : ((start.run before).1.act poll).watcher.plan = plan :=
    (plan_act _ poll).trans (plan_run start before)
  have within : ((start.run before).1.act poll).watcher.Fits :=
    (happens_act _ poll).fits (fits_run plan before)
  have room := within listener
  rw [planned] at room
  rw [planned, ← mailbox_of_getElem? present] at full
  exact ⟨before, poll, during, moves, listener, same, polled, next,
    (isListening_of_getElem? present).trans listening, Nat.le_antisymm room full, silent,
    kept.next.trans next⟩

/-- Whoever listens before `delivered` took the front snapshot last. -/
theorem Fanout.last_taken {h : History} {w : Watcher} (fan : Fanout h w) (ok : w.Orderly)
    {place listener : Nat} (here : w.subscribers[place]? = some listener)
    (listening : w.isListening listener = true) (before : place < w.delivered) :
    (w.mailbox listener).taken.getLast? = w.pending.head? := by
  obtain ⟨start, known⟩ := fan.exists_start ok (List.mem_of_getElem? here)
  obtain ⟨snapshot, rest, front⟩ :=
    List.exists_cons_of_ne_nil (ok.front (Nat.zero_lt_of_lt before))
  have taken := fan.taken place listener start here listening known
  rw [if_pos before, History.between_succ (fan.start_le known) (fan.front front).1] at taken
  rw [taken, List.getLast?_concat, front, List.head?_cons]

/-- Readers who take turns put nothing into a mailbox. -/
theorem length_held_serveAll_le (turn : List ReaderAction) :
    ∀ (w : Watcher) (listener : Nat),
      ((w.serveAll turn).1.mailbox listener).held.length ≤ (w.mailbox listener).held.length := by
  induction turn with
  | nil =>
      intro w listener
      exact Nat.le_refl _
  | cons action rest ih =>
      intro w listener
      exact Nat.le_trans (ih _ listener) (w.length_held_serve_le action listener)

/-- A watcher with any settings, behind any actions.

* `delivered` is zero, or it is a place in the list of subscribers, the watcher is not closed and
  there is a front snapshot.
* A publish waits only for the subscriber at that place. It has waited since a poll that found this
  one listening and its mailbox full, and since then readers have acted and nothing else was
  available.
* No mailbox holds more than its capacity, which is at least one, also when the watcher is gone.
* A closed watcher has no subscribers and stands at zero, and every subscriber has a number below
  the next one.

So a publish of an empty buffer, which does nothing, leaves zero behind. A poll deals with
everybody from `delivered` on, once each, before the front snapshot leaves the buffer, and where
no snapshot leaves it the others are still in line. This passes over nobody: whoever listens before
`delivered` took the front snapshot last, and where there are subscribers some are in line. -/
theorem delivered_stands_in_line (target : Target) (s : Settings) (actions : List Action) :
    let start := create (.ofSettings target s)
    let w := (start.run actions).1
    (w.delivered = 0 ∨
      w.closed = false ∧ w.pending ≠ [] ∧ w.delivered < w.subscribers.length) ∧
    (w.publishing = true →
      ∃ before poll during moves listener, actions = before ++ poll :: during ∧
        let paused := (start.run before).1.act poll
        paused.result = .published moves false ∧
        paused.watcher.subscribers[paused.watcher.delivered]? = some listener ∧
        paused.watcher.isListening listener = true ∧
        (paused.watcher.mailbox listener).held.length = max 1 s.listenerCapacity ∧
        (∀ step ∈ paused.watcher.steps during,
          step.2 = .unavailable ∨ ∃ answer, step.2 = .reader answer) ∧
        w.subscribers[w.delivered]? = some listener) ∧
    (∀ listener, (w.mailbox listener).held.length ≤ max 1 s.listenerCapacity ∧
      ∀ turn, ((w.drop.serveAll turn).1.mailbox listener).held.length ≤
        max 1 s.listenerCapacity) ∧
    (w.closed = true → w.subscribers = [] ∧ w.delivered = 0) ∧
    (∀ listener ∈ w.subscribers, listener < w.nextIndex) ∧
    (w.pending = [] → w.delivered = 0 ∧ w.publish = (w, [])) ∧
    (∀ action moves completed, (w.act action).result = .published moves completed →
      (Move.inRound moves ++
        if .retired ∈ moves then [] else (w.act action).watcher.line).Perm w.line) ∧
    (∀ place listener, w.subscribers[place]? = some listener → place < w.delivered →
      w.isListening listener = true →
        (w.mailbox listener).taken.getLast? = w.pending.head?) ∧
    (w.subscribers ≠ [] → w.line ≠ []) := by
  intro start w
  have sound : w.Sound := sound_run _ actions
  have ok := sound.orderly
  have fits : ∀ listener, (w.mailbox listener).held.length ≤ max 1 s.listenerCapacity := by
    have within : w.Fits := fits_run _ actions
    rwa [Fits, plan_run] at within
  have begun : 0 < w.delivered → w.delivered < w.subscribers.length := fun lt =>
    sound.inside.resolve_left (Nat.ne_of_gt lt)
  refine ⟨?_, ?_, fun listener => ⟨fits listener, fun turn => ?_⟩, fun closed => ?_, ok.below,
    fun empty => ?_, ?_, ?_, ?_⟩
  · obtain zero | lt := Nat.eq_zero_or_pos w.delivered
    · exact .inl zero
    · exact .inr ⟨ok.opened (List.getElem_mem (begun lt)), ok.front lt, begun lt⟩
  · exact waits_for_full (.ofSettings target s) actions
  · exact Nat.le_trans (length_held_serveAll_le turn w.drop listener) (fits listener)
  · have vacant := ok.vacant closed
    refine ⟨vacant, Nat.le_zero.mp ?_⟩
    have le := ok.cursor
    rwa [vacant] at le
  · refine ⟨Nat.eq_zero_of_not_pos fun lt => ok.front lt empty, ?_⟩
    rw [publish, if_pos (List.isEmpty_iff.mpr empty)]
  · intro action moves completed published
    have happens := happens_act w action
    rw [published] at happens
    exact happens.line_perm.symm
  · intro place listener here before listening
    exact (fanout_run _ actions).last_taken ok here listening before
  · intro some
    have lt : w.delivered < w.subscribers.length :=
      (Nat.eq_zero_or_pos w.delivered).elim
        (fun zero => zero ▸ List.length_pos_of_ne_nil some) begun
    rwa [line, ne_eq, List.drop_eq_nil_iff, Nat.not_le]

/-- A watcher whose settings leave mailboxes no room. Each takes one snapshot all the same. -/
def unroomy : Watcher :=
  create (.ofSettings Plan.sample.target { listenerCapacity := 0 })

/-- Two listeners, and a publish that has come to the second of them with the second snapshot. The
owner tries to close the watcher, and then the mailbox is read that the publish waits for. -/
def readWhileWaiting : List Action :=
  [.owner .subscribe, .owner .subscribe, .owner (.collect (.sample 0)),
    .owner (.collect (.sample 1)), .owner .publish, .reader (.receive 0), .resume, .owner .close,
    .reader (.receive 1)]

theorem delivered_stands_in_line_readWhileWaiting :
    let w := (unroomy.run readWhileWaiting).1
    let closed := (unroomy.run (readWhileWaiting ++ [.resume, .owner .close])).1
    (w.publishing = true ∧ w.delivered = 1 ∧ w.subscribers = [0, 1] ∧ (w.mailbox 1).held = []) ∧
      (∃ before poll during listener, readWhileWaiting = before ++ poll :: during ∧
        (((unroomy.run before).1.act poll).watcher.mailbox listener).held.length = max 1 0 ∧
        w.subscribers[w.delivered]? = some listener) ∧
      1 < w.nextIndex ∧
      (w.act .resume).result = .published [.accepted 1, .retired] true ∧ [1].Perm w.line ∧
      (w.mailbox 0).taken.getLast? = w.pending.head? ∧
      w.line ≠ [] ∧
      (closed.closed = true ∧ closed.subscribers = [] ∧ closed.delivered = 0) ∧
      closed.pending = [] ∧ closed.publish = (closed, []) := by
  intro w closed
  have waits : w.publishing = true ∧ w.delivered = 1 ∧ w.subscribers = [0, 1] ∧
      (w.mailbox 1).held = [] := by decide +kernel
  have moves : w.resume.2 = [.accepted 1, .retired] ∧ (!w.resume.1.publishing) = true := by
    decide +kernel
  have resumed : (w.act .resume).result = .published [.accepted 1, .retired] true := by
    rw [act_resume waits.1, published, moves.1, moves.2]
  have shut : closed.closed = true := by decide +kernel
  have empty : closed.pending = [] := by decide +kernel
  have first :=
    delivered_stands_in_line Plan.sample.target { listenerCapacity := 0 } readWhileWaiting
  have second := delivered_stands_in_line Plan.sample.target { listenerCapacity := 0 }
      (readWhileWaiting ++ [.resume, .owner .close])
  dsimp only at first second
  obtain ⟨_, paused, _, _, numbered, _, inRound, front, line⟩ := first
  obtain ⟨_, _, _, vacant, _, nothing, _, _, _⟩ := second
  obtain ⟨before, poll, during, _, listener, same, _, _, _, full, _, here⟩ := paused waits.1
  have dealt := inRound _ _ _ resumed
  rw [if_pos (by decide), List.append_nil] at dealt
  exact ⟨waits, ⟨before, poll, during, listener, same, full, here⟩,
    numbered 1 (by decide +kernel), resumed, dealt,
    front 0 0 (by decide +kernel) (by decide +kernel) (by decide +kernel),
    line (by decide +kernel), ⟨shut, vacant shut⟩, empty, (nothing empty).2⟩

end Watcher

end RolloutWatch
