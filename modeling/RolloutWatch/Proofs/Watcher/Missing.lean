import RolloutWatch.Proofs.Watcher.Losing
import RolloutWatch.Proofs.Watcher.Polling

/-!
# What those who are warned about have missed

A subscriber never took more than what left the buffer since it subscribed, and the front
snapshot if it stands before `delivered`. This holds of those who are gone too. So whoever
is unregistered while there is something in the buffer has missed a snapshot of it, except
the front one if that was taken. Behind the last round of a publish there is nothing in the
buffer any more, and nothing is left to be missed by a listener that went after it had read
everything.
-/

namespace RolloutWatch

namespace Watcher

/-- No subscriber took more than there was for it. -/
def Within (h : History) (w : Watcher) : Prop :=
  ∀ place listener start, w.subscribers[place]? = some listener →
    h.starts[listener]? = some start →
    start + (w.mailbox listener).taken.length ≤ h.retired + w.ahead place

theorem ahead_le_one (w : Watcher) (place : Nat) : w.ahead place ≤ 1 := by
  unfold ahead
  split <;> decide

theorem ahead_of_start {w : Watcher} (start : w.delivered = 0) (place : Nat) :
    w.ahead place = 0 := by
  rw [ahead, start, if_neg (Nat.not_lt_zero place)]

/-- Every move keeps subscribers within what there is for them. -/
theorem Advance.within {h : History} {w after : Watcher} {move : Move} (step : Advance w move after)
    (within : Within h w) (ok : w.Orderly) : Within (h.publish [move]) after := by
  cases step with
  | @accepted snapshot rest reader box front next present listening room =>
      intro place listener start here known
      have here : w.subscribers[place]? = some listener := here
      have before := within place listener start here known
      show start + ((w.setMailbox reader (box.push snapshot)).mailbox listener).taken.length ≤
        h.retired + if place < w.delivered + 1 then 1 else 0
      unfold ahead at before
      by_cases same : listener = reader
      · subst same
        obtain rfl := ok.place_unique here next
        rw [if_neg (Nat.lt_irrefl _), mailbox_of_getElem? present] at before
        rw [mailbox_setMailbox (List.getElem?_eq_some_iff.mp present).1, Mailbox.taken_push,
          List.length_append, List.length_singleton, if_pos (Nat.lt_succ_self _)]
        omega
      · rw [mailbox_setMailbox_of_ne same]
        split at before <;> split <;> omega
  | refused waiting next gone =>
      intro place listener start here known
      have before := within place listener start here known
      show start + (w.mailbox listener).taken.length ≤
        h.retired + if place < w.delivered + 1 then 1 else 0
      unfold ahead at before
      split at before <;> split <;> omega
  | retired front all =>
      intro place listener start here known
      have before := within place listener start here known
      have most := w.ahead_le_one place
      show start + (w.mailbox listener).taken.length ≤ h.retired + 1 + 0
      omega
  | unregistered start place gone =>
      intro here listener since member known
      have still : listener ∈ w.subscribers :=
        Advance.subscribers_subset (.unregistered start place gone) (List.mem_of_getElem? member)
      obtain ⟨there, found⟩ := List.getElem?_of_mem still
      have before := within there listener since found known
      rw [ahead_of_start start] at before
      exact Nat.le_trans before (Nat.le_add_right ..)

theorem Advances.within {h : History} {w after : Watcher} {moves : List Move}
    (path : Advances w moves after) (within : Within h w) (ok : w.Orderly) :
    Within (h.publish moves) after := by
  induction path generalizing h with
  | refl => exact within
  | @cons _ _ _ move moves step _ ih =>
      have later := ih (step.within within ok) (step.orderly ok)
      rwa [← History.publish_append] at later

/-- Everything that can happen keeps subscribers within what there is for them. -/
theorem Happens.within {h : History} {w after : Watcher} {action : Action} {outcome : Outcome}
    (happens : Happens w action after outcome) (within : Within h w) (fan : Fanout h w)
    (ok : w.Orderly) : Within (h.note (action, outcome)) after := by
  cases happens with
  | unavailable | refused | uncollected | collected | nothing | closedAgain | handle
  | abandoned => exact within
  | late closed =>
      intro place listener start here
      have here : w.subscribers[place]? = some listener := here
      rw [ok.vacant closed] at here
      cases here
  | registered opened =>
      intro place listener start here known
      show start + ({ w with mailboxes := w.mailboxes ++ [({} : Mailbox)] }.mailbox
        listener).taken.length ≤ h.retired + w.ahead place
      rw [Fanout.mailbox_append]
      obtain ⟨lt, known⟩ | ⟨rfl, rfl⟩ := fan.starts_subscribe known
      · rw [if_neg (Nat.ne_of_lt lt)]
        refine within place listener start ?_ known
        rw [List.getElem?_append] at here
        split at here
        · exact here
        · have last := List.mem_singleton.mp (List.mem_of_getElem? here)
          have numbered := ok.numbered opened
          omega
      · rw [if_pos rfl]
        exact Nat.le_add_right ..
  | polled waiting poll =>
      cases poll with
      | returned path | waits path => exact path.within within ok
  | closed => exact nofun
  | served action =>
      obtain ⟨mailboxes, gate, same, length⟩ := w.serve_frame action
      intro place listener start here known
      have fewer := (w.mailbox_serve action listener).1.kept.length_le
      rw [same] at here fewer ⊢
      have before := within place listener start here known
      exact Nat.le_trans (Nat.add_le_add_left fewer start) before

theorem within_run (plan : Plan) (actions : List Action) :
    Within ((create plan).history actions) ((create plan).run actions).1 := by
  have all := run_induction
    (P := fun past w => Within (.ofSteps past) w ∧ Fanout (.ofSteps past) w ∧ w.Sound)
    (fun past w action ⟨within, fan, sound⟩ => by
      have happens := happens_act w action
      rw [History.ofSteps_snoc]
      exact ⟨happens.within within fan sound.orderly, happens.fanout fan sound.orderly,
        happens.sound sound⟩)
    [] ⟨nofun, fanout_create plan, sound_create plan⟩ actions
  exact all.1

/-- In the middle of a round nobody is unregistered before the front snapshot leaves the buffer. -/
theorem Advances.retires {w after : Watcher} {moves : List Move} (path : Advances w moves after)
    (begun : 0 < w.delivered) {listener : Nat} (removed : .unregistered listener ∈ moves) :
    .retired ∈ moves := by
  induction path with
  | refl => cases removed
  | cons step path ih =>
      rw [List.mem_cons] at removed ⊢
      cases step with
      | accepted | refused =>
          exact .inr (ih (Nat.zero_lt_succ _) (removed.resolve_left nofun))
      | retired => exact .inl rfl
      | unregistered start => exact absurd (start ▸ begun) (Nat.lt_irrefl 0)

/-- Whoever read all that there was for it and is unregistered in a poll had been sent the only
snapshot in the buffer, and the poll returns. -/
theorem Polled.of_missed_none {h : History} {w : Watcher} {result : Watcher × List Move}
    (poll : Polled w result) (waiting : w.pending ≠ []) (fan : Fanout h w)
    (within : Within h w) {listener start : Nat} (known : h.starts[listener]? = some start)
    (removed : .unregistered listener ∈ result.2)
    (all : h.readings listener = h.buffered.drop start) :
    w.pending.length = 1 ∧ listener ∈ w.subscribers.take w.delivered ∧
      result.1.publishing = false := by
  have registered : listener ∈ w.subscribers := by
    cases poll with
    | returned path | waits path => exact (path.gone removed rfl).1
  obtain ⟨place, here⟩ := List.getElem?_of_mem registered
  have bound := within place listener start here known
  have waits := fan.retired_lt waiting
  have started := fan.start_le known
  have length : w.pending.length = h.buffered.length - h.retired := by
    rw [fan.buffer, List.length_drop]
  have taken : h.buffered.length - start ≤ (w.mailbox listener).taken.length := by
    rw [← List.length_drop, ← all, ← fan.read, Mailbox.taken, List.length_append]
    exact Nat.le_add_right ..
  have most := w.ahead_le_one place
  have ahead : place < w.delivered := by
    by_contra behind
    rw [Watcher.ahead, if_neg behind] at bound
    omega
  have one : w.pending.length = 1 := by omega
  refine ⟨one, List.mem_of_getElem? ((List.getElem?_take_of_lt ahead).trans here), ?_⟩
  cases poll with
  | returned => rfl
  | waits path blocked =>
      have gone := path.retires (Nat.zero_lt_of_lt ahead) removed
      have left := path.pending_eq
      refine absurd ?_ blocked.waiting
      rw [left, List.drop_eq_nil_iff, one]
      exact List.count_pos_iff.mpr gone

/-- Whenever a warning about a listener is recorded, there is a snapshot that had not left the buffer
when the listener subscribed, or was buffered later, and that the listener has not read by then.
The one exception is a listener that had been sent the only snapshot in the buffer by a publish that
waited, and that read everything before it went: the publish warns about it when it returns. -/
theorem who_is_warned_about_missed (plan : Plan) (actions : List Action) :
    let w := ((create plan).run actions).1
    let h := (create plan).history actions
    ∀ action listener, .listenerDropped listener ∉ w.warnings →
      .listenerDropped listener ∈ (w.act action).watcher.warnings →
        w.isListening listener = false ∧
        ∃ start, h.starts[listener]? = some start ∧
          ((∃ missed rest, h.buffered.drop start = h.readings listener ++ missed :: rest) ∨
            h.readings listener = h.buffered.drop start ∧ w.pending.length = 1 ∧
              listener ∈ w.subscribers.take w.delivered ∧
              ∃ moves, (w.act action).result = .published moves true) := by
  intro w h action listener before warned
  have fan := fanout_run plan actions
  have ok := (sound_run plan actions).orderly
  have happens := happens_act w action
  rw [happens.warnings_eq, List.mem_append] at warned
  obtain ⟨move, member, warns⟩ := List.mem_filterMap.mp (warned.resolve_left before)
  obtain rfl : move = .unregistered listener := by
    cases move with
    | unregistered => cases warns; rfl
    | accepted | refused | retired => cases warns
  generalize outcome : (w.act action).result = given at happens member
  generalize (w.act action).watcher = after at happens
  cases happens with
  | @polled _ result waiting poll =>
      obtain ⟨registered, gone⟩ : listener ∈ w.subscribers ∧ w.isListening listener = false := by
        cases poll with
        | returned path | waits path => exact path.gone member rfl
      obtain ⟨start, known⟩ := fan.exists_start ok registered
      refine ⟨gone, start, known, ?_⟩
      have read : h.readings listener <+: h.buffered.drop start := by
        rw [← fan.read]
        exact (List.prefix_append ..).trans (fan.kept listener start known)
      obtain ⟨rest, split⟩ := read
      cases rest with
      | cons missed rest => exact .inl ⟨missed, rest, split.symm⟩
      | nil =>
          rw [List.append_nil] at split
          obtain ⟨one, before, returned⟩ :=
            poll.of_missed_none waiting fan (within_run plan actions) known member split
          rw [returned]
          exact .inr ⟨split, one, before, _, rfl⟩
  | _ => cases member

/-- Two listeners with room for one snapshot. The first one reads both snapshots, while the publish
of the second one waits for the other listener. -/
def readAll : List Action :=
  [.owner .subscribe, .owner .subscribe, .owner (.collect (.sample 0)),
    .owner (.collect (.sample 1)), .owner .publish, .reader (.receive 0), .resume,
    .reader (.receive 0)]

/-- Then it goes, and the other listener reads. -/
def readAllThenGone : List Action :=
  readAll ++ [.reader (.dropReading 0), .reader (.receive 1)]

/-- A listener that goes without having read anything, and the one that read everything. -/
theorem who_is_warned_about_missed_samples :
    let w := ((create .sample).run halfDelivered).1
    let h := (create .sample).history halfDelivered
    let late := ((create .sample).run readAllThenGone).1
    let past := (create .sample).history readAllThenGone
    (.listenerDropped 1 ∉ w.warnings ∧
        .listenerDropped 1 ∈ (w.act (.owner .publish)).watcher.warnings) ∧
      (∃ missed rest, h.buffered = h.readings 1 ++ missed :: rest) ∧
      (.listenerDropped 0 ∉ late.warnings ∧
        .listenerDropped 0 ∈ (late.act .resume).watcher.warnings) ∧
      past.readings 0 = past.buffered ∧ late.pending.length = 1 ∧
      0 ∈ late.subscribers.take late.delivered := by
  intro w h late past
  have warned : .listenerDropped 1 ∉ w.warnings ∧
      .listenerDropped 1 ∈ (w.act (.owner .publish)).watcher.warnings := by decide +kernel
  have warned' : .listenerDropped 0 ∉ late.warnings ∧
      .listenerDropped 0 ∈ (late.act .resume).watcher.warnings := by decide +kernel
  obtain ⟨_, start, known, missed⟩ :=
    who_is_warned_about_missed .sample halfDelivered _ 1 warned.1 warned.2
  obtain ⟨_, start', known', read⟩ :=
    who_is_warned_about_missed .sample readAllThenGone _ 0 warned'.1 warned'.2
  have first : h.starts[1]? = some 0 ∧ w.pending.length = 2 := by decide +kernel
  have second : past.starts[0]? = some 0 ∧ past.buffered.length = (past.readings 0).length := by
    decide +kernel
  obtain rfl : start = 0 := Option.some.inj (known.symm.trans first.1)
  obtain rfl : start' = 0 := Option.some.inj (known'.symm.trans second.1)
  obtain missed | ⟨_, one, _⟩ := missed
  · obtain ⟨missed, rest, split⟩ | ⟨all, one, before, _⟩ := read
    · have lengths := congrArg List.length split
      rw [List.drop_zero, List.length_append, second.2, List.length_cons] at lengths
      exact absurd lengths (Nat.ne_of_lt (Nat.lt_add_of_pos_right (Nat.zero_lt_succ _)))
    · exact ⟨warned, missed, warned', all, one, before⟩
  · exact absurd (first.2.symm.trans one) (by decide)

/-- The listener that went last had read everything before, and is warned about all the same. -/
theorem warned_about_with_nothing_missed :
    let w := ((create .sample).run readAllThenGone).1
    let h := (create .sample).history readAllThenGone
    h.starts[0]? = some 0 ∧ h.buffered.length = 2 ∧
      ((create .sample).history readAll).readings 0 = h.buffered ∧
      w.warnings = [] ∧ (w.act .resume).watcher.warnings = [.listenerDropped 0] := by
  decide +kernel

end Watcher

end RolloutWatch
