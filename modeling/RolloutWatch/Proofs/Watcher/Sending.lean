import RolloutWatch.Proofs.Watcher.Fanout

/-!
# What a publish sends

The moves of a publish only fill mailboxes: what a mailbox holds stays where it is,
and snapshots come behind it, as long as there is room. A mailbox whose reading end is
gone is left as it is. No chain of moves goes on for ever, since each move either brings
`delivered` forward, takes a snapshot out of the buffer, or unregisters somebody.
-/

namespace RolloutWatch

namespace Mailbox

/-- Puts snapshots behind those that the mailbox holds. -/
def fill (box : Mailbox) (snapshots : List Snapshot) : Mailbox :=
  { box with held := box.held ++ snapshots }

@[simp] theorem fill_nil (box : Mailbox) : box.fill [] = box := by
  simp [fill]

@[simp] theorem fill_fill (box : Mailbox) (first second : List Snapshot) :
    (box.fill first).fill second = box.fill (first ++ second) := by
  simp [fill]

@[simp] theorem held_fill (box : Mailbox) (snapshots : List Snapshot) :
    (box.fill snapshots).held = box.held ++ snapshots := rfl

@[simp] theorem taken_fill (box : Mailbox) (snapshots : List Snapshot) :
    (box.fill snapshots).taken = box.taken ++ snapshots := by
  simp [fill, taken]

theorem push_eq_fill (box : Mailbox) (snapshot : Snapshot) :
    box.push snapshot = box.fill [snapshot] := rfl

theorem length_held_receive_le (box : Mailbox) (attached : Bool) :
    (box.receive attached).1.held.length ≤ box.held.length := by
  unfold receive
  split
  · exact Nat.le_refl _
  · next same => simp [same]

theorem length_held_closeReading (box : Mailbox) :
    box.closeReading.held.length = box.held.length := by
  unfold closeReading
  split <;> rfl

end Mailbox

namespace Watcher

/-- A move puts snapshots behind what a mailbox holds, or leaves it as it is. -/
theorem Advance.exists_sent {w after : Watcher} {move : Move} (h : Advance w move after)
    (listener : Nat) :
    ∃ sent, after.mailbox listener = (w.mailbox listener).fill sent ∧
      (w.isListening listener = false → sent = []) := by
  cases h with
  | @accepted snapshot _ reader box front next present listening room =>
      by_cases here : listener = reader
      · subst here
        have inside := (List.getElem?_eq_some_iff.mp present).1
        refine ⟨[snapshot], ?_, ?_⟩
        · have changed : (w.setMailbox listener (box.push snapshot)).mailbox listener =
              box.push snapshot := mailbox_setMailbox inside
          rw [mailbox_of_getElem? present, ← Mailbox.push_eq_fill]
          exact changed
        · intro gone
          rw [isListening_of_getElem? present, listening] at gone
          cases gone
      · have unchanged : (w.setMailbox reader (box.push snapshot)).mailbox listener =
            w.mailbox listener := mailbox_setMailbox_of_ne here
        exact ⟨[], unchanged.trans (Mailbox.fill_nil _).symm, fun _ => rfl⟩
  | refused | retired | unregistered => exact ⟨[], (Mailbox.fill_nil _).symm, fun _ => rfl⟩

theorem Advances.exists_sent {w after : Watcher} {moves : List Move} (h : Advances w moves after)
    (listener : Nat) :
    ∃ sent, after.mailbox listener = (w.mailbox listener).fill sent ∧
      (w.isListening listener = false → sent = []) := by
  induction h with
  | refl => exact ⟨[], (Mailbox.fill_nil _).symm, fun _ => rfl⟩
  | cons step _ ih =>
      obtain ⟨first, middle, silent⟩ := step.exists_sent listener
      obtain ⟨second, final, still⟩ := ih
      refine ⟨first ++ second, ?_, ?_⟩
      · rw [final, middle, Mailbox.fill_fill]
      · intro gone
        rw [silent gone, still ((step.isListening_eq listener).trans gone), List.append_nil]

/-- No move unregisters somebody who listens. -/
theorem Advance.filter_subscribers {w after : Watcher} {move : Move} (h : Advance w move after) :
    after.subscribers.filter after.isListening = w.subscribers.filter w.isListening := by
  have listens : after.isListening = w.isListening := funext h.isListening_eq
  rw [listens]
  cases h with
  | accepted | refused | retired => rfl
  | unregistered start place gone =>
      rw [place, List.filter_append, List.filter_append, List.filter_cons_of_neg (by simp [gone])]

theorem Advances.filter_subscribers {w after : Watcher} {moves : List Move}
    (h : Advances w moves after) :
    after.subscribers.filter after.isListening = w.subscribers.filter w.isListening := by
  induction h with
  | refl => rfl
  | cons step _ ih => exact ih.trans step.filter_subscribers

/-- No mailbox holds more than it may. -/
def Fits (w : Watcher) : Prop :=
  ∀ listener, (w.mailbox listener).held.length ≤ w.plan.capacity

theorem Advance.fits {w after : Watcher} {move : Move} (h : Advance w move after) (ok : w.Fits) :
    after.Fits := by
  cases h with
  | @accepted snapshot _ reader box front next present listening room =>
      intro listener
      have pushed : (box.push snapshot).held.length ≤ w.plan.capacity := by
        rw [Mailbox.push_eq_fill, Mailbox.held_fill, List.length_append]
        exact room
      exact related_setMailbox
        (R := fun before after =>
          before.held.length ≤ w.plan.capacity → after.held.length ≤ w.plan.capacity)
        (fun _ => id) (fun _ => pushed) listener (ok listener)
  | refused | retired | unregistered => exact ok

theorem Advances.fits {w after : Watcher} {moves : List Move} (h : Advances w moves after)
    (ok : w.Fits) : after.Fits :=
  h.induction Advance.fits ok

/-- A mailbox that is put in the place of a listener's and holds no more than it. -/
theorem length_held_setMailbox_le (w : Watcher) {reader : Nat} {box : Mailbox}
    (less : box.held.length ≤ (w.mailbox reader).held.length) (listener : Nat) :
    ((w.setMailbox reader box).mailbox listener).held.length ≤
      (w.mailbox listener).held.length :=
  related_setMailbox (R := fun before after => after.held.length ≤ before.held.length)
    (fun _ => Nat.le_refl _) less listener

/-- Readers put nothing into a mailbox. -/
theorem length_held_serve_le (w : Watcher) (action : ReaderAction) (listener : Nat) :
    ((w.serve action).1.mailbox listener).held.length ≤ (w.mailbox listener).held.length := by
  cases action with
  | receive reader =>
      exact w.length_held_setMailbox_le (Mailbox.length_held_receive_le _ _) listener
  | closeReading reader =>
      exact w.length_held_setMailbox_le (Nat.le_of_eq (Mailbox.length_held_closeReading _)) listener
  | drain reader | dropReading reader =>
      exact w.length_held_setMailbox_le (Nat.zero_le _) listener
  | isDone | cloneHandle | wait | startWait | pollWait => exact Nat.le_refl _

theorem Happens.fits {w after : Watcher} {action : Action} {outcome : Outcome}
    (happens : Happens w action after outcome) (ok : w.Fits) : after.Fits := by
  have appended : ∀ listener,
      ({ w with mailboxes := w.mailboxes ++ [({} : Mailbox)] }.mailbox listener).held.length ≤
        w.plan.capacity := by
    intro listener
    rw [Fanout.mailbox_append]
    split
    · exact Nat.zero_le _
    · exact ok listener
  cases happens with
  | unavailable | refused | uncollected | collected | nothing | closedAgain | closed | handle
  | abandoned => exact ok
  | late | registered => exact appended
  | polled waiting poll =>
      cases poll with
      | returned path | waits path => exact path.fits ok
  | served action =>
      intro listener
      have plan : (w.serve action).1.plan = w.plan := by
        obtain ⟨_, _, same, _⟩ := w.serve_frame action
        rw [same]
      rw [plan]
      exact Nat.le_trans (w.length_held_serve_le action listener) (ok listener)

/-- In every reachable state the mailboxes hold no more than they may. -/
theorem fits_run (plan : Plan) (actions : List Action) : ((create plan).run actions).1.Fits :=
  run_invariant (fun w action ok => (happens_act w action).fits ok) (fun _ => Nat.zero_le _)
    actions

/-- How many moves a publish can still make. A round is a move for each subscriber and one for the
retirement of the snapshot, and the place `delivered` says how much of the first round is over. -/
def movesLeft (w : Watcher) : Nat :=
  w.pending.length * (w.subscribers.length + 1) + (w.subscribers.length - w.delivered)

theorem Advance.movesLeft_lt {w after : Watcher} {move : Move} (h : Advance w move after) :
    after.movesLeft < w.movesLeft := by
  cases h with
  | accepted _ next | refused _ next =>
      have inside := (List.getElem?_eq_some_iff.mp next).1
      simp only [movesLeft]
      omega
  | @retired snapshot rest front all =>
      simp only [movesLeft, front, List.length_cons, Nat.add_mul, Nat.one_mul]
      omega
  | @unregistered listener before behind start place gone =>
      have fewer : (before ++ behind).length + 1 = w.subscribers.length := by
        rw [place, List.length_append, List.length_append, List.length_cons, Nat.add_assoc]
      simp only [movesLeft, start, ← fewer, Nat.mul_add]
      omega

/-- A chain of moves is no longer than its first watcher allows. -/
theorem Advances.length_le {w after : Watcher} {moves : List Move} (h : Advances w moves after) :
    moves.length + after.movesLeft ≤ w.movesLeft := by
  induction h with
  | refl => exact Nat.le_of_eq (Nat.zero_add _)
  | cons step _ ih =>
      have less := step.movesLeft_lt
      rw [List.length_cons]
      omega

end Watcher

end RolloutWatch
