import RolloutWatch.Proofs.Watcher.Soundness

/-!
# Fan-out

Snapshots are numbered in the order in which they were buffered. The buffer holds
those that have not left it, and a registered listener whose reading end is open took
exactly those that left the buffer since it subscribed, and the front one if its place
in the list of subscribers lies before `delivered`. No order of actions changes that.
-/

namespace RolloutWatch

namespace Watcher

/-- How a watcher goes with its past. -/
structure Fanout (h : History) (w : Watcher) : Prop where
  buffer : w.pending = h.buffered.drop h.retired
  retired_le : h.retired ≤ h.buffered.length
  starts : h.starts.length = w.mailboxes.length
  starts_le : ∀ start ∈ h.starts, start ≤ h.retired
  read : ∀ listener, (w.mailbox listener).read = h.readings listener
  taken : ∀ place listener start, w.subscribers[place]? = some listener →
    w.isListening listener = true → h.starts[listener]? = some start →
    (w.mailbox listener).taken = h.between start (h.retired + if place < w.delivered then 1 else 0)
  kept : ∀ listener start, h.starts[listener]? = some start →
    (w.mailbox listener).taken <+: h.buffered.drop start

namespace Fanout

variable {h : History} {w : Watcher}

theorem front (fan : Fanout h w) {snapshot : Snapshot} {rest : List Snapshot}
    (front : w.pending = snapshot :: rest) :
    h.buffered[h.retired]? = some snapshot ∧ rest = h.buffered.drop (h.retired + 1) := by
  have split := fan.buffer.symm.trans front
  constructor
  · rw [← Nat.add_zero h.retired, ← List.getElem?_drop, split]
    rfl
  · rw [← List.drop_drop, split]
    rfl

/-- A round that has begun leaves its snapshot in the buffer. -/
theorem retired_lt (fan : Fanout h w) (waiting : w.pending ≠ []) :
    h.retired < h.buffered.length := by
  rw [fan.buffer, ne_eq, List.drop_eq_nil_iff] at waiting
  exact Nat.lt_of_not_le waiting

/-- Nobody's subscription is later than the snapshots that left the buffer. -/
theorem start_le (fan : Fanout h w) {listener start : Nat}
    (known : h.starts[listener]? = some start) : start ≤ h.retired :=
  fan.starts_le start (List.mem_of_getElem? known)

/-- Every subscriber has a start. -/
theorem exists_start (fan : Fanout h w) (ok : w.Orderly) {listener : Nat}
    (registered : listener ∈ w.subscribers) : ∃ start, h.starts[listener]? = some start := by
  have present := ok.present registered
  rw [← fan.starts] at present
  exact ⟨_, List.getElem?_eq_getElem present⟩

theorem accepted (fan : Fanout h w) (ok : w.Orderly) {snapshot : Snapshot}
    {rest : List Snapshot} {listener : Nat} {box : Mailbox} (front : w.pending = snapshot :: rest)
    (next : w.subscribers[w.delivered]? = some listener)
    (present : w.mailboxes[listener]? = some box) (listening : box.isListening = true) :
    Fanout h
      { w with
        mailboxes := w.mailboxes.set listener (box.push snapshot)
        delivered := w.delivered + 1 } := by
  have inside := (List.getElem?_eq_some_iff.mp present).1
  have changed : (w.setMailbox listener (box.push snapshot)).mailbox listener = box.push snapshot :=
    mailbox_setMailbox inside
  have unchanged : ∀ other, other ≠ listener →
      (w.setMailbox listener (box.push snapshot)).mailbox other = w.mailbox other :=
    fun other ne => mailbox_setMailbox_of_ne ne
  have pushed : ∀ start, h.starts[listener]? = some start →
      (box.push snapshot).taken = h.between start (h.retired + 1) := by
    intro start known
    have before := fan.taken _ _ _ next (isListening_of_getElem? present ▸ listening) known
    rw [mailbox_of_getElem? present, if_neg (Nat.lt_irrefl _), Nat.add_zero] at before
    rw [Mailbox.taken_push, before, ← History.between_succ (fan.start_le known) (fan.front front).1]
  refine ⟨fan.buffer, fan.retired_le, fan.starts.trans List.length_set.symm, fan.starts_le,
    ?_, ?_, ?_⟩
  · intro other
    by_cases same : other = listener
    · subst same
      have read := fan.read other
      rw [mailbox_of_getElem? present] at read
      exact (congrArg Mailbox.read changed).trans read
    · exact (congrArg Mailbox.read (unchanged other same)).trans (fan.read other)
  · intro place other start here opened known
    -- Only the listener that took the snapshot has its place passed by `delivered`.
    by_cases same : other = listener
    · subst same
      have place_eq := ok.place_unique here next
      subst place_eq
      rw [if_pos (Nat.lt_succ_self _)]
      exact (congrArg Mailbox.taken changed).trans (pushed start known)
    · have ne : place ≠ w.delivered := by
        rintro rfl
        exact same (Option.some.inj (here.symm.trans next))
      have still : w.isListening other = true := by
        rw [isListening, ← any_isListening_set_push present other]
        exact opened
      have before := fan.taken place other start here still known
      have place_iff : place < w.delivered + 1 ↔ place < w.delivered := by omega
      simp only [place_iff]
      exact (congrArg Mailbox.taken (unchanged other same)).trans before
  · intro other start known
    by_cases same : other = listener
    · subst same
      have taken := (congrArg Mailbox.taken changed).trans (pushed start known)
      exact taken ▸ h.between_prefix start _
    · exact congrArg Mailbox.taken (unchanged other same) ▸ fan.kept other start known

theorem retired (fan : Fanout h w) {snapshot : Snapshot} {rest : List Snapshot}
    (front : w.pending = snapshot :: rest) (all : w.subscribers.length ≤ w.delivered) :
    Fanout (h.publish [.retired]) { w with pending := rest, delivered := 0 } := by
  have inside := fan.retired_lt (by simp [front])
  refine ⟨(fan.front front).2, inside, fan.starts, ?_, fan.read, ?_, fan.kept⟩
  · intro start member
    exact Nat.le_succ_of_le (fan.starts_le start member)
  · intro place listener start here listening known
    have place_lt := Nat.lt_of_lt_of_le (List.getElem?_eq_some_iff.mp here).1 all
    have before := fan.taken place listener start here listening known
    rw [if_pos place_lt] at before
    exact before

end Fanout

/-- Every move of a publish goes with its note in the past. -/
theorem Advance.fanout {h : History} {w after : Watcher} {move : Move} (step : Advance w move after)
    (fan : Fanout h w) (ok : w.Orderly) : Fanout (h.publish [move]) after := by
  cases step with
  | accepted front next present listening room => exact fan.accepted ok front next present listening
  | refused waiting next gone =>
      refine ⟨fan.buffer, fan.retired_le, fan.starts, fan.starts_le, fan.read, ?_, fan.kept⟩
      intro place listener start here listening known
      have ne : place ≠ w.delivered := by
        rintro rfl
        rw [Option.some.inj (here.symm.trans next)] at listening
        exact Bool.false_ne_true (gone.symm.trans listening)
      have place_iff : place < w.delivered + 1 ↔ place < w.delivered := by omega
      have before := fan.taken place listener start here listening known
      simp only [place_iff]
      exact before
  | retired front all => exact fan.retired front all
  | @unregistered listener before behind start place gone =>
      refine ⟨fan.buffer, fan.retired_le, fan.starts, fan.starts_le, fan.read, ?_, fan.kept⟩
      intro here other since member listening known
      have still : other ∈ w.subscribers := by
        rw [place, List.mem_append, List.mem_cons]
        exact (List.mem_append.mp (List.mem_of_getElem? member)).imp_right .inr
      obtain ⟨there, found⟩ := List.getElem?_of_mem still
      have same := fan.taken there other since found listening known
      simp only [start, Nat.not_lt_zero, if_false] at same ⊢
      exact same

theorem Advances.fanout {h : History} {w after : Watcher} {moves : List Move}
    (path : Advances w moves after) (fan : Fanout h w) (ok : w.Orderly) :
    Fanout (h.publish moves) after := by
  induction path generalizing h with
  | refl => exact fan
  | @cons _ _ _ move moves step _ ih =>
      have later := ih (step.fanout fan ok) (step.orderly ok)
      rwa [← History.publish_append] at later

/-- A poll of a publish goes with the note of its moves. -/
theorem Polled.fanout {h : History} {w : Watcher} {result : Watcher × List Move}
    (poll : Polled w result) (fan : Fanout h w) (ok : w.Orderly) :
    Fanout (h.publish result.2) result.1 := by
  cases poll with
  | returned path =>
      have later := path.fanout fan ok
      exact ⟨later.buffer, later.retired_le, later.starts, later.starts_le, later.read,
        later.taken, later.kept⟩
  | waits path =>
      have later := path.fanout fan ok
      exact ⟨later.buffer, later.retired_le, later.starts, later.starts_le, later.read,
        later.taken, later.kept⟩

namespace Fanout

variable {h : History} {w : Watcher}

/-- A new mailbox is empty, and its listener subscribed now. -/
theorem mailbox_append (w : Watcher) (listener : Nat) :
    { w with mailboxes := w.mailboxes ++ [({} : Mailbox)] }.mailbox listener =
      if listener = w.mailboxes.length then {} else w.mailbox listener := by
  obtain lt | rfl | lt := Nat.lt_trichotomy listener w.mailboxes.length
  · rw [if_neg (Nat.ne_of_lt lt), mailbox, List.getElem?_append_left lt, mailbox]
  · rw [if_pos rfl, mailbox, List.getElem?_concat_length]
    rfl
  · rw [if_neg (Nat.ne_of_gt lt), mailbox_of_le (Nat.le_of_lt lt), mailbox_of_le]
    rw [List.length_append, List.length_singleton]
    exact lt

/-- The listeners that subscribed, with one more. -/
theorem starts_subscribe {listener start : Nat} (fan : Fanout h w)
    (known : h.subscribe.starts[listener]? = some start) :
    (listener < w.mailboxes.length ∧ h.starts[listener]? = some start) ∨
      (listener = w.mailboxes.length ∧ start = h.retired) := by
  rw [History.subscribe, List.getElem?_append, fan.starts] at known
  split at known
  · next lt => exact .inl ⟨lt, known⟩
  · next le =>
      obtain ⟨zero, same⟩ := List.getElem?_eq_some_iff.mp known
      have here : listener = w.mailboxes.length := by
        rw [List.length_singleton] at zero
        omega
      subst here
      rw [List.getElem_singleton] at same
      exact .inr ⟨rfl, same.symm⟩

/-- Subscribing, where `subscribers` are those that the watcher writes to from then on. -/
theorem subscribe (fan : Fanout h w) {subscribers : List Nat} {nextIndex : Nat}
    (old : ∀ place listener : Nat, listener < w.mailboxes.length →
      subscribers[place]? = some listener → w.subscribers[place]? = some listener)
    (new : ∀ place : Nat, subscribers[place]? = some w.mailboxes.length → w.delivered ≤ place) :
    Fanout h.subscribe
      { w with mailboxes := w.mailboxes ++ [{}], subscribers, nextIndex } := by
  have box := mailbox_append w
  refine ⟨fan.buffer, fan.retired_le, ?_, ?_, ?_, ?_, ?_⟩
  · simp [History.subscribe, fan.starts]
  · intro start member
    obtain earlier | now := List.mem_append.mp member
    · exact fan.starts_le start earlier
    · exact Nat.le_of_eq (List.mem_singleton.mp now)
  · intro listener
    have read := fan.read listener
    refine (congrArg Mailbox.read (box listener)).trans ?_
    split
    · next same =>
        rw [mailbox_of_le (Nat.le_of_eq same.symm)] at read
        exact read
    · exact read
  · intro place listener start here listening known
    refine (congrArg Mailbox.taken (box listener)).trans ?_
    obtain ⟨lt, known⟩ | ⟨rfl, rfl⟩ := fan.starts_subscribe known
    · have open_ := (isListening_append listening).resolve_right (Nat.ne_of_lt lt)
      rw [if_neg (Nat.ne_of_lt lt)]
      exact fan.taken place listener start (old place listener lt here) open_ known
    · rw [if_pos rfl, if_neg (Nat.not_lt.mpr (new place here)), Nat.add_zero]
      exact (h.between_self h.retired).symm
  · intro listener start known
    refine congrArg Mailbox.taken (box listener) ▸ ?_
    obtain ⟨lt, known⟩ | ⟨rfl, rfl⟩ := fan.starts_subscribe known
    · rw [if_neg (Nat.ne_of_lt lt)]
      exact fan.kept listener start known
    · rw [if_pos rfl]
      exact List.nil_prefix

/-- Buffering one more snapshot. -/
theorem collect (fan : Fanout h w) (ok : w.Orderly) (snapshot : Snapshot) (gate : Gate)
    (ledger : Ledger) :
    Fanout (h.buffer snapshot) { w with gate, ledger, pending := w.pending ++ [snapshot] } := by
  have longer : h.buffered.length ≤ (h.buffer snapshot).buffered.length := by
    simp [History.buffer]
  refine ⟨?_, Nat.le_trans fan.retired_le longer, fan.starts, fan.starts_le, fan.read, ?_, ?_⟩
  · rw [History.buffer, List.drop_append_of_le_length fan.retired_le, fan.buffer]
  · intro place listener start here listening known
    have inside : h.retired + (if place < w.delivered then 1 else 0) ≤ h.buffered.length := by
      split
      · next lt => exact fan.retired_lt (ok.front (Nat.zero_lt_of_lt lt))
      · exact fan.retired_le
    exact (fan.taken place listener start here listening known).trans
      (History.between_buffer snapshot inside).symm
  · intro listener start known
    have le := Nat.le_trans (fan.start_le known) fan.retired_le
    rw [History.buffer, List.drop_append_of_le_length le]
    exact (fan.kept listener start known).trans (List.prefix_append ..)

/-- Readers at work. -/
theorem serve (fan : Fanout h w) (action : ReaderAction) :
    Fanout (h.read action (w.serve action).2) (w.serve action).1 := by
  obtain ⟨mailboxes, gate, same, length⟩ := w.serve_frame action
  have served := w.mailbox_serve action
  generalize (w.serve action).2 = answer at served
  rw [same] at served ⊢
  refine ⟨fan.buffer, fan.retired_le, fan.starts.trans length.symm, fan.starts_le, ?_, ?_, ?_⟩
  · intro listener
    rw [(served listener).2, fan.read]
    rfl
  · intro place listener start here listening known
    rw [isListening_eq] at listening
    have before := (served listener).1.listening listening
    rw [← isListening_eq] at before
    rw [(served listener).1.taken listening]
    exact fan.taken place listener start here before known
  · intro listener start known
    exact (served listener).1.kept.trans (fan.kept listener start known)

end Fanout

/-- Every action goes with its note in the past. -/
theorem Happens.fanout {h : History} {w after : Watcher} {action : Action} {outcome : Outcome}
    (happens : Happens w action after outcome) (fan : Fanout h w) (ok : w.Orderly) :
    Fanout (h.note (action, outcome)) after := by
  cases happens with
  | unavailable | refused | uncollected | closedAgain => exact fan
  | late closed =>
      have vacant := ok.vacant closed
      refine fan.subscribe (fun _ _ _ here => here) ?_
      intro place here
      rw [vacant] at here
      cases here
  | registered opened =>
      refine fan.subscribe ?_ ?_
      · intro place listener lt here
        rw [List.getElem?_append] at here
        split at here
        · exact here
        · have last := List.mem_singleton.mp (List.mem_of_getElem? here)
          have numbered := ok.numbered opened
          omega
      · intro place here
        rw [List.getElem?_append] at here
        split at here
        · next lt =>
            have present := ok.present (List.mem_of_getElem? here)
            exact absurd present (Nat.lt_irrefl _)
        · next le => exact Nat.le_trans ok.cursor (Nat.le_of_not_lt le)
  | collected read => exact fan.collect ok _ _ _
  | nothing empty =>
      exact ⟨fan.buffer, fan.retired_le, fan.starts, fan.starts_le, fan.read, fan.taken,
        fan.kept⟩
  | polled waiting poll => exact poll.fanout fan ok
  | closed opened =>
      refine ⟨fan.buffer, fan.retired_le, fan.starts, fan.starts_le, fan.read, ?_, fan.kept⟩
      intro place listener start here
      cases here
  | handle | abandoned =>
      exact ⟨fan.buffer, fan.retired_le, fan.starts, fan.starts_le, fan.read, fan.taken,
        fan.kept⟩
  | served action => exact fan.serve action

theorem fanout_create (plan : Plan) : Fanout {} (create plan) := by
  refine ⟨rfl, Nat.le_refl 0, rfl, ?_, fun _ => rfl, ?_, ?_⟩
  · intro start member
    cases member
  · intro place listener start here
    cases here
  · intro listener start known
    cases known

theorem fanout_run (plan : Plan) (actions : List Action) :
    Fanout ((create plan).history actions) ((create plan).run actions).1 := by
  have both := run_induction
    (P := fun past w => Fanout (.ofSteps past) w ∧ w.Sound)
    (fun past w action ⟨fan, sound⟩ => by
      have happens := happens_act w action
      rw [History.ofSteps_snoc]
      exact ⟨happens.fanout fan sound.orderly, happens.sound sound⟩)
    [] ⟨fanout_create plan, sound_create plan⟩ actions
  exact both.1

/-- In the state behind every run, the buffer is what was buffered and has not left it, and a
registered listener with an open reading end has read or finds in its mailbox exactly what left
the buffer since it subscribed, and the front snapshot if its place lies before `delivered`. All
other listeners have read a first part of what was there for them.

Until the close an open reading end is registered, and what leaves the buffer in a poll of a
publish has by then been taken by all who were registered and open. A publish that returns leaves
the buffer empty. -/
theorem fanout_exact (plan : Plan) (actions : List Action) :
    let w := ((create plan).run actions).1
    let h := (create plan).history actions
    w.pending = h.buffered.drop h.retired ∧ h.retired ≤ h.buffered.length ∧
      (∀ place listener, w.subscribers[place]? = some listener → w.isListening listener = true →
        ∃ start, h.starts[listener]? = some start ∧ start ≤ h.retired ∧
          (place < w.delivered → h.retired < h.buffered.length) ∧
          h.readings listener ++ (w.mailbox listener).held =
            h.between start h.retired ++
              if place < w.delivered then h.buffered[h.retired]?.toList else []) ∧
      (∀ listener start, h.starts[listener]? = some start →
        h.readings listener <+: h.buffered.drop start) ∧
      (w.closed = false → ∀ listener, w.isListening listener = true →
        listener ∈ w.subscribers) ∧
      (∀ action moves completed, (w.act action).result = .published moves completed →
        (completed = true → (w.act action).watcher.pending = []) ∧
        ∀ listener ∈ w.subscribers, w.isListening listener = true →
          listener ∈ (w.act action).watcher.subscribers ∧
            ∀ start, h.starts[listener]? = some start →
              h.between start (h.retired + moves.count .retired) <+:
                ((w.act action).watcher.mailbox listener).taken) := by
  intro w h
  have fan := fanout_run plan actions
  have sound := sound_run plan actions
  refine ⟨fan.buffer, fan.retired_le, ?_, ?_, sound.orderly.listening, ?_⟩
  · intro place listener here listening
    have present := sound.orderly.present (List.mem_of_getElem? here)
    obtain ⟨start, known⟩ : ∃ start, h.starts[listener]? = some start := by
      rw [← fan.starts] at present
      exact ⟨_, List.getElem?_eq_getElem present⟩
    have inside : place < w.delivered → h.retired < h.buffered.length := fun lt =>
      fan.retired_lt (sound.orderly.front (Nat.zero_lt_of_lt lt))
    refine ⟨start, known, fan.start_le known, inside, ?_⟩
    have taken := fan.taken place listener start here listening known
    rw [Mailbox.taken, fan.read] at taken
    rw [taken]
    split
    · next lt =>
        have next := List.getElem?_eq_getElem (inside lt)
        rw [History.between_succ (fan.start_le known) next, next, Option.toList_some]
    · rw [Nat.add_zero, List.append_nil]
  · intro listener start known
    rw [← fan.read]
    exact (List.prefix_append ..).trans (fan.kept listener start known)
  · intro action moves completed published
    have happens := happens_act w action
    rw [published] at happens
    obtain ⟨closed, listens, empty⟩ := happens.published
    refine ⟨empty, ?_⟩
    intro listener member listening
    have later := happens.sound sound
    have still := (listens listener).trans listening
    have registered := later.orderly.listening (closed.trans (sound.orderly.opened member))
      listener still
    refine ⟨registered, ?_⟩
    intro start known
    obtain ⟨place, here⟩ := List.getElem?_of_mem registered
    have taken := (happens.fanout fan sound.orderly).taken place listener start here still known
    rw [taken]
    exact h.between_prefix_between start (Nat.le_add_right ..)

/-- Two listeners, of which the first reads. The second snapshot is half delivered, a third one is
buffered behind it, and a listener comes late. -/
def halfDelivered : List Action :=
  [.owner .subscribe, .owner .subscribe, .owner (.collect (.sample 0)),
    .owner (.collect (.sample 1)), .owner .publish, .reader (.receive 0), .resume, .abandon,
    .owner (.collect (.sample 2)), .owner .subscribe, .reader (.dropReading 1)]

theorem fanout_exact_halfDelivered :
    let w := ((create .sample).run halfDelivered).1
    let h := (create .sample).history halfDelivered
    (w.delivered = 1 ∧ h.retired = 1 ∧ w.subscribers = [0, 1, 2]) ∧
      (∃ start, h.starts[0]? = some start ∧ start ≤ h.retired ∧
        (0 < w.delivered → h.retired < h.buffered.length) ∧
        h.readings 0 ++ (w.mailbox 0).held =
          h.between start h.retired ++
            if 0 < w.delivered then h.buffered[h.retired]?.toList else []) ∧
      h.readings 1 <+: h.buffered.drop 0 ∧
      2 ∈ w.subscribers ∧
      (w.act (.owner .publish)).result =
        .published [.refused 1, .accepted 2, .retired, .unregistered 1] false ∧
      2 ∈ (w.act (.owner .publish)).watcher.subscribers ∧
      h.between 1 2 <+: ((w.act (.owner .publish)).watcher.mailbox 2).taken := by
  obtain ⟨_, _, taken, read, listening, published⟩ := fanout_exact .sample halfDelivered
  have moves : (((create .sample).run halfDelivered).1.act (.owner .publish)).result =
      .published [.refused 1, .accepted 2, .retired, .unregistered 1] false := by rfl
  have late := (published _ _ _ moves).2 2 (by decide +kernel) (by decide +kernel)
  exact ⟨by decide +kernel, taken 0 0 (by decide +kernel) (by decide +kernel),
    read 1 0 (by decide +kernel), listening (by decide +kernel) 2 (by decide +kernel), moves,
    late.1, late.2 1 (by decide +kernel)⟩

end Watcher

end RolloutWatch
