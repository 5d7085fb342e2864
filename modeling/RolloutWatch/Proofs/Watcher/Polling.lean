import RolloutWatch.Proofs.Watcher.Collecting
import RolloutWatch.Proofs.Watcher.Sending
import RolloutWatch.Watcher.Attend

/-!
# How far a poll of a publish comes

A poll in which no reader acts sends every subscriber as much of the buffer as the
subscriber with the least room allows. A subscriber that has the front snapshot already
is one snapshot ahead of the others, and one whose reading end is gone allows everything.
If all allow the whole buffer, the poll returns. Otherwise it waits for the first of those
who allow the least: those in line before it have one snapshot more than those behind.
-/

namespace RolloutWatch

namespace History

/-- What is added to the snapshots up to one place to have those up to another. -/
theorem between_of_append {h : History} {start first second : Nat} {sent : List Snapshot}
    (le_first : start ≤ first) (le_second : start ≤ second) (inside : first ≤ h.buffered.length)
    (split : h.between start first ++ sent = h.between start second) :
    first ≤ second ∧ sent = h.between first second := by
  have lengths := congrArg List.length split
  simp only [between, List.length_append, List.length_drop, List.length_take] at lengths
  refine ⟨by omega, ?_⟩
  have rest : (h.between start second).drop (first - start) = sent := by
    rw [← split, List.drop_left' (by rw [between, List.length_drop, List.length_take]; omega)]
  rw [← rest, between, List.drop_drop, Nat.add_sub_cancel' le_first, between]

/-- The same snapshots, seen from the front of the buffer. -/
theorem between_add (h : History) (front first second : Nat) :
    h.between (front + first) (front + second) =
      ((h.buffered.drop front).take second).drop first := by
  rw [between, ← List.drop_drop, List.drop_take, Nat.add_sub_cancel_left]

end History

namespace Watcher

/-- Places in the list of subscribers are in the order of registration. -/
theorem Orderly.place_lt_iff {w : Watcher} (ok : w.Orderly) {first second a b : Nat}
    (here : w.subscribers[first]? = some a) (there : w.subscribers[second]? = some b) :
    first < second ↔ a < b := by
  obtain ⟨inside, rfl⟩ := List.getElem?_eq_some_iff.mp here
  obtain ⟨within, rfl⟩ := List.getElem?_eq_some_iff.mp there
  have ascending := List.pairwise_iff_getElem.mp ok.ascending
  constructor
  · exact ascending first second inside within
  · intro lt
    obtain before | rfl | behind := Nat.lt_trichotomy first second
    · exact before
    · exact absurd lt (Nat.lt_irrefl _)
    · exact absurd (ascending second first within inside behind) (Nat.lt_asymm lt)

/-- How many more snapshots the mailbox of a listener takes. -/
def free (w : Watcher) (listener : Nat) : Nat :=
  w.plan.capacity - (w.mailbox listener).held.length

/-- One for the places of subscribers who have the front snapshot, and zero for the others. -/
def ahead (w : Watcher) (place : Nat) : Nat :=
  if place < w.delivered then 1 else 0

/-- How many snapshots can leave the buffer before a poll waits for the subscriber at a place. -/
def allowance (w : Watcher) (place listener : Nat) : Nat :=
  w.free listener + w.ahead place

theorem Advance.pending_eq {w after : Watcher} {move : Move} (h : Advance w move after) :
    after.pending = w.pending.drop ([move].count .retired) := by
  cases h with
  | accepted | refused | unregistered => rfl
  | retired front => rw [front]; rfl

theorem Advances.pending_eq {w after : Watcher} {moves : List Move} (h : Advances w moves after) :
    after.pending = w.pending.drop (moves.count .retired) := by
  induction h with
  | refl => rfl
  | @cons _ _ _ move moves step _ ih =>
      rw [ih, step.pending_eq, List.drop_drop, ← List.count_append, List.singleton_append]

section Advances

variable {h : History} {w after : Watcher} {moves : List Move}

/-- Whoever listens is still registered. -/
theorem Advances.exists_place (path : Advances w moves after) {place listener : Nat}
    (here : w.subscribers[place]? = some listener) (listening : w.isListening listener = true) :
    ∃ later : Nat, after.subscribers[later]? = some listener := by
  have member : listener ∈ w.subscribers.filter w.isListening :=
    List.mem_filter.mpr ⟨List.mem_of_getElem? here, listening⟩
  rw [← path.filter_subscribers] at member
  exact List.getElem?_of_mem (List.mem_filter.mp member).1

/-- What a chain of moves sends to a subscriber who listens. As many snapshots of the buffer have
gone by as have left it, and one more if the subscriber has the front one in the end. -/
theorem Advances.sent (path : Advances w moves after) (fan : Fanout h w) (ok : w.Orderly)
    {place later listener : Nat} (here : w.subscribers[place]? = some listener)
    (there : after.subscribers[later]? = some listener)
    (listening : w.isListening listener = true) :
    let passed := moves.count .retired + after.ahead later
    w.ahead place ≤ passed ∧ passed ≤ w.pending.length ∧
      after.mailbox listener =
        (w.mailbox listener).fill ((w.pending.take passed).drop (w.ahead place)) := by
  intro passed
  have fanAfter := path.fanout fan ok
  obtain ⟨start, known⟩ := fan.exists_start ok (List.mem_of_getElem? here)
  have started := fan.start_le known
  have before : (w.mailbox listener).taken = h.between start (h.retired + w.ahead place) :=
    fan.taken place listener start here listening known
  have behind : (after.mailbox listener).taken = h.between start (h.retired + passed) := by
    have still := (path.isListening_eq listener).trans listening
    have taken := fanAfter.taken later listener start there still known
    rw [taken, History.publish, Nat.add_assoc]
    rfl
  have inside : h.retired + w.ahead place ≤ h.buffered.length := by
    unfold ahead
    split
    · next lt => exact fan.retired_lt (ok.front (Nat.zero_lt_of_lt lt))
    · exact fan.retired_le
  have within : h.retired + passed ≤ h.buffered.length := by
    have le : h.retired + moves.count .retired ≤ h.buffered.length := fanAfter.retired_le
    simp only [passed, ahead]
    split
    · next lt =>
        have front := (path.orderly ok).front (Nat.zero_lt_of_lt lt)
        exact fanAfter.retired_lt front
    · exact le
  obtain ⟨sent, filled, _⟩ := path.exists_sent listener
  rw [filled, Mailbox.taken_fill, before] at behind
  obtain ⟨le, rfl⟩ := History.between_of_append (by omega) (by omega) inside behind
  refine ⟨by omega, ?_, ?_⟩
  · rw [fan.buffer, List.length_drop]
    omega
  · rw [filled, History.between_add, ← fan.buffer]

/-- No more passes by a subscriber than it allows, and if its mailbox is full, just that much. -/
theorem Advances.allowed (path : Advances w moves after) (fan : Fanout h w) (ok : w.Orderly)
    (fits : w.Fits) {place later listener : Nat} (here : w.subscribers[place]? = some listener)
    (there : after.subscribers[later]? = some listener)
    (listening : w.isListening listener = true) :
    let passed := moves.count .retired + after.ahead later
    passed ≤ w.allowance place listener ∧
      (w.plan.capacity ≤ (after.mailbox listener).held.length →
        w.allowance place listener = passed) := by
  intro passed
  obtain ⟨least, most, filled⟩ := path.sent fan ok here there listening
  have room := path.fits fits listener
  rw [path.frame.plan] at room
  rw [filled, Mailbox.held_fill, List.length_append, List.length_drop, List.length_take,
    Nat.min_eq_left most] at room ⊢
  simp only [allowance, free, passed]
  omega

/-- Where a publish returns, everybody allows the whole buffer and has it in the end. -/
theorem Advances.returned (path : Advances w moves after) (fan : Fanout h w) (ok : w.Orderly)
    (fits : w.Fits) (empty : after.pending = []) {place listener : Nat}
    (here : w.subscribers[place]? = some listener) (listening : w.isListening listener = true) :
    w.pending.length ≤ w.allowance place listener ∧
      after.mailbox listener = (w.mailbox listener).fill (w.pending.drop (w.ahead place)) := by
  obtain ⟨later, there⟩ := path.exists_place here listening
  obtain ⟨_, _, filled⟩ := path.sent fan ok here there listening
  have enough := (path.allowed fan ok fits here there listening).1
  have all : w.pending.length ≤ moves.count .retired := by
    rw [path.pending_eq] at empty
    exact List.drop_eq_nil_iff.mp empty
  rw [List.take_of_length_le (Nat.le_add_right_of_le all)] at filled
  exact ⟨by omega, filled⟩

/-- Where a publish waits, it waits for the first of those who allow the least. -/
theorem Advances.waits (path : Advances w moves after) (fan : Fanout h w) (ok : w.Orderly)
    (fits : w.Fits) (blocked : after.Blocked) :
    ∃ place listener, w.subscribers[place]? = some listener ∧ w.isListening listener = true ∧
      after.subscribers[after.delivered]? = some listener ∧
      (after.mailbox listener).held.length = w.plan.capacity ∧
      moves.count .retired = w.allowance place listener ∧
      w.allowance place listener < w.pending.length ∧
      ∀ other reader, w.subscribers[other]? = some reader → w.isListening reader = true →
        w.allowance place listener ≤ w.allowance other reader ∧
          (other < place → w.allowance place listener < w.allowance other reader) ∧
          after.mailbox reader = (w.mailbox reader).fill
            ((w.pending.take (w.allowance place listener + if other < place then 1 else 0)).drop
              (w.ahead other)) := by
  obtain ⟨waiting, listener, box, next, present, open_, full⟩ := blocked
  have listening : w.isListening listener = true := by
    rw [← path.isListening_eq, isListening_of_getElem? present, open_]
  obtain ⟨place, here⟩ : ∃ place, w.subscribers[place]? = some listener := by
    have member : listener ∈ after.subscribers.filter after.isListening :=
      List.mem_filter.mpr ⟨List.mem_of_getElem? next, isListening_of_getElem? present ▸ open_⟩
    rw [path.filter_subscribers] at member
    exact List.getElem?_of_mem (List.mem_filter.mp member).1
  have kept := path.orderly ok
  rw [path.frame.plan, ← mailbox_of_getElem? present] at full
  have room := path.fits fits listener
  rw [path.frame.plan] at room
  -- The place `delivered` is the listener's own, so that exactly those left the buffer that it allows.
  have here_ahead : after.ahead after.delivered = 0 := if_neg (Nat.lt_irrefl _)
  have least : moves.count .retired = w.allowance place listener := by
    have exact_ := (path.allowed fan ok fits here next listening).2 full
    rw [exact_, here_ahead, Nat.add_zero]
  refine ⟨place, listener, here, listening, next, Nat.le_antisymm room full, least, ?_, ?_⟩
  · rw [path.pending_eq, ne_eq, List.drop_eq_nil_iff] at waiting
    omega
  · intro other reader at_ listens
    obtain ⟨later, there⟩ := path.exists_place at_ listens
    have same : after.ahead later = if other < place then 1 else 0 := by
      rw [ahead]
      simp only [kept.place_lt_iff there next, ok.place_lt_iff at_ here]
    have allowed := (path.allowed fan ok fits at_ there listens).1
    have filled := (path.sent fan ok at_ there listens).2.2
    rw [same, least] at allowed filled
    refine ⟨by omega, ?_, filled⟩
    intro before
    rw [if_pos before] at allowed
    exact allowed

end Advances

section Polled

variable {h : History} {w : Watcher} {result : Watcher × List Move}

theorem Polled.length_le (poll : Polled w result) : result.2.length ≤ w.movesLeft := by
  cases poll with
  | returned path | waits path => exact Nat.le_trans (Nat.le_add_right ..) path.length_le

/-- Whoever does not listen is sent nothing. -/
theorem Polled.mailbox_of_gone (poll : Polled w result) {listener : Nat}
    (gone : w.isListening listener = false) :
    result.1.mailbox listener = w.mailbox listener := by
  cases poll with
  | returned path | waits path =>
      obtain ⟨sent, filled, silent⟩ := path.exists_sent listener
      rw [silent gone, Mailbox.fill_nil] at filled
      exact filled

/-- A poll returns if everybody who listens allows the whole buffer, and not otherwise. -/
theorem Polled.returns_iff (poll : Polled w result) (fan : Fanout h w) (ok : w.Orderly)
    (fits : w.Fits) :
    result.1.publishing = false ↔ ∀ place listener, w.subscribers[place]? = some listener →
      w.isListening listener = true → w.pending.length ≤ w.allowance place listener := by
  cases poll with
  | returned path empty =>
      refine iff_of_true rfl ?_
      intro place listener here listening
      exact (path.returned fan ok fits empty here listening).1
  | waits path blocked =>
      refine iff_of_false Bool.noConfusion ?_
      intro all
      obtain ⟨place, listener, here, listening, _, _, _, short, _⟩ :=
        path.waits fan ok fits blocked
      exact absurd (all place listener here listening) (Nat.not_le.mpr short)

/-- What a poll that returns leaves behind. -/
theorem Polled.of_returned (poll : Polled w result) (fan : Fanout h w) (ok : w.Orderly)
    (fits : w.Fits) (returned : result.1.publishing = false) :
    result.1.pending = [] ∧ result.1.delivered = 0 ∧
      result.1.subscribers = w.subscribers.filter w.isListening ∧
      ∀ place listener, w.subscribers[place]? = some listener →
        w.isListening listener = true →
          result.1.mailbox listener =
            (w.mailbox listener).fill (w.pending.drop (w.ahead place)) := by
  cases poll with
  | waits => cases returned
  | returned path empty start settled =>
      refine ⟨empty, start, ?_, ?_⟩
      · rw [← path.filter_subscribers]
        exact (List.filter_eq_self.mpr settled).symm
      · intro place listener here listening
        exact (path.returned fan ok fits empty here listening).2

/-- What a poll that waits leaves behind. -/
theorem Polled.of_waiting (poll : Polled w result) (fan : Fanout h w) (ok : w.Orderly)
    (fits : w.Fits) (waiting : result.1.publishing = true) :
    ∃ place listener, w.subscribers[place]? = some listener ∧ w.isListening listener = true ∧
      result.1.subscribers[result.1.delivered]? = some listener ∧
      (result.1.mailbox listener).held.length = w.plan.capacity ∧
      result.2.count .retired = w.allowance place listener ∧
      w.allowance place listener < w.pending.length ∧
      result.1.pending = w.pending.drop (w.allowance place listener) ∧
      ∀ other reader, w.subscribers[other]? = some reader → w.isListening reader = true →
        w.allowance place listener ≤ w.allowance other reader ∧
          (other < place → w.allowance place listener < w.allowance other reader) ∧
          result.1.mailbox reader = (w.mailbox reader).fill
            ((w.pending.take (w.allowance place listener + if other < place then 1 else 0)).drop
              (w.ahead other)) := by
  cases poll with
  | returned => cases waiting
  | waits path blocked =>
      obtain ⟨place, listener, here, listening, next, full, least, short, others⟩ :=
        path.waits fan ok fits blocked
      exact ⟨place, listener, here, listening, next, full, least, short,
        least ▸ path.pending_eq, others⟩

end Polled

/-- The first thing that a publish does behind the unregistering is to offer the front snapshot to
the subscriber at `delivered`. -/
theorem head_publishFrom {w : Watcher} {listener : Nat} {queue : List Nat}
    (waiting : w.pending ≠ []) (place : w.line = listener :: queue)
    (listening : w.isListening listener = true) :
    (w.publishFrom w.pending).2.head? =
      if (w.mailbox listener).held.length < w.plan.capacity then some (.accepted listener)
      else none := by
  obtain ⟨snapshot, rest, front⟩ := List.exists_cons_of_ne_nil waiting
  obtain gone | ⟨box, present, open_, room | full⟩ :=
    gone_or_room_or_full w.plan.capacity w.mailboxes listener
  · exact absurd (listening.symm.trans gone) Bool.noConfusion
  · have taken : (w.offers snapshot).head? = some (.accepted listener) := by
      rw [offers, place, offer_cons_of_room present open_ room, List.head?_cons]
    rw [mailbox_of_getElem? present, if_pos room, front]
    by_cases short : (w.offers snapshot).length < w.line.length
    · rw [publishFrom_of_full front short, taken]
    · rw [publishFrom_of_reached short, List.append_assoc, List.head?_append, taken,
        Option.some_or]
  · have silent : w.offers snapshot = [] := by
      rw [offers, place, offer_cons_of_full present open_ full]
    have short : (w.offers snapshot).length < w.line.length := by
      rw [silent, place]
      exact Nat.zero_lt_succ _
    rw [mailbox_of_getElem? present, if_neg (Nat.not_lt.mpr full), front,
      publishFrom_of_full front short, silent, List.head?_nil]

/-- A new publish begins at the subscriber at `delivered`, if that one listens. Only those who are
gone may be unregistered before. -/
theorem publish_begins_at {w : Watcher} {listener : Nat} (waiting : w.pending ≠ [])
    (next : w.subscribers[w.delivered]? = some listener)
    (listening : w.isListening listener = true) :
    ∃ removals rest, w.publish.2 = removals ++ rest ∧
      (∀ move ∈ removals, ∃ gone, move = .unregistered gone) ∧
      rest.head? =
        if (w.mailbox listener).held.length < w.plan.capacity then some (.accepted listener)
        else none := by
  have nonempty : ¬w.pending.isEmpty = true := by simpa using waiting
  obtain ⟨inside, found⟩ := List.getElem?_eq_some_iff.mp next
  have place : w.line = listener :: w.subscribers.drop (w.delivered + 1) := by
    rw [line, List.drop_eq_getElem_cons inside, found]
  rw [publish, if_neg nonempty]
  split
  · next start =>
      have pruned : w.prune.1.line =
          listener :: (w.subscribers.drop (w.delivered + 1)).filter w.isListening := by
        rw [line, start, List.drop_zero] at place
        rw [line, delivered_prune, start, List.drop_zero, subscribers_prune]
        exact (congrArg (List.filter _) place).trans (List.filter_cons_of_pos listening)
      refine ⟨w.prune.2, (w.prune.1.publishFrom w.pending).2, rfl, ?_,
        head_publishFrom (w := w.prune.1) waiting pruned listening⟩
      intro move member
      obtain ⟨gone, _, rfl⟩ := List.mem_map.mp member
      exact ⟨gone, rfl⟩
  · exact ⟨[], (w.publishFrom w.pending).2, rfl, List.forall_mem_nil _,
      head_publishFrom waiting place listening⟩

/-- Readers who take turns touch mailboxes and the gate. -/
theorem serveAll_frame (turn : List ReaderAction) :
    ∀ w : Watcher, ∃ mailboxes gate, (w.serveAll turn).1 = { w with mailboxes, gate } := by
  induction turn with
  | nil =>
      intro w
      exact ⟨w.mailboxes, w.gate, rfl⟩
  | cons action rest ih =>
      intro w
      obtain ⟨_, _, first, _⟩ := w.serve_frame action
      obtain ⟨mailboxes, gate, later⟩ := ih (w.serve action).1
      refine ⟨mailboxes, gate, later.trans ?_⟩
      rw [first]

/-- A poll of a new publish, from every reachable state with something in the buffer, comes to its
end after a number of moves that the state bounds. It returns if and only if every subscriber who
listens allows the whole buffer: those who do not have the front snapshot have room for all of it,
and those who have it for all but that one. Then the buffer is empty, exactly those who listen are
still registered, and each of them was sent the buffer in order, without the front snapshot where
it had that.

Otherwise the poll waits at the full mailbox of the first of those who allow the least. As many
snapshots have left the buffer as that one allows. The subscribers in line before it were sent
these and one more, and those from it on just these, without the front snapshot where they had it.
A later publish begins with that subscriber, whatever readers do in between, as long as it listens.

Whoever does not listen is never waited for, and its mailbox stays as it is. -/
theorem publish_goes_as_far_as_allowed (plan : Plan) (actions : List Action) :
    let w := ((create plan).run actions).1
    let after := w.publish.1
    let moves := w.publish.2
    w.publishing = false → w.pending ≠ [] →
      (w.act (.owner .publish)).watcher = after ∧
      (w.act (.owner .publish)).result = .published moves !after.publishing ∧
      moves.length ≤ w.movesLeft ∧
      (after.publishing = false ↔ ∀ place listener, w.subscribers[place]? = some listener →
        w.isListening listener = true → w.pending.length ≤ w.allowance place listener) ∧
      (after.publishing = false →
        after.pending = [] ∧ after.delivered = 0 ∧
          after.subscribers = w.subscribers.filter w.isListening ∧
          ∀ place listener, w.subscribers[place]? = some listener →
            w.isListening listener = true →
              after.mailbox listener =
                (w.mailbox listener).fill (w.pending.drop (w.ahead place))) ∧
      (after.publishing = true →
        ∃ place listener, w.subscribers[place]? = some listener ∧
          w.isListening listener = true ∧
          after.subscribers[after.delivered]? = some listener ∧
          (after.mailbox listener).held.length = plan.capacity ∧
          moves.count .retired = w.allowance place listener ∧
          w.allowance place listener < w.pending.length ∧
          after.pending = w.pending.drop (w.allowance place listener) ∧
          (∀ other reader, w.subscribers[other]? = some reader → w.isListening reader = true →
            w.allowance place listener ≤ w.allowance other reader ∧
              (other < place → w.allowance place listener < w.allowance other reader) ∧
              after.mailbox reader = (w.mailbox reader).fill
                ((w.pending.take (w.allowance place listener + if other < place then 1 else 0)).drop
                  (w.ahead other))) ∧
          ∀ turn, let later := (after.abandon.serveAll turn).1
            later.isListening listener = true →
              ∃ removals rest, later.publish.2 = removals ++ rest ∧
                (∀ move ∈ removals, ∃ gone, move = .unregistered gone) ∧
                rest.head? =
                  if (later.mailbox listener).held.length < plan.capacity then
                    some (.accepted listener)
                  else none) ∧
      ∀ listener, w.isListening listener = false →
        after.mailbox listener = w.mailbox listener := by
  intro w after moves idle waiting
  have fan := fanout_run plan actions
  have ok := (sound_run plan actions).orderly
  have fits := fits_run plan actions
  have same_plan : w.plan = plan := plan_run (create plan) actions
  have acted : w.act (.owner .publish) = published w.publish := by
    rw [act, idle]
    rfl
  have poll : Polled w w.publish := polled_publish waiting
  refine ⟨by rw [acted]; rfl, by rw [acted]; rfl, poll.length_le, poll.returns_iff fan ok fits,
    poll.of_returned fan ok fits, ?_, fun listener => poll.mailbox_of_gone⟩
  intro waits
  obtain ⟨place, listener, here, listening, next, full, least, short, left, others⟩ :=
    poll.of_waiting fan ok fits waits
  refine ⟨place, listener, here, listening, next, same_plan ▸ full, least, short, left, others, ?_⟩
  intro turn later still
  obtain ⟨mailboxes, gate, same⟩ := serveAll_frame turn w.publish.1.abandon
  have same : later = { w.publish.1.abandon with mailboxes, gate } := same
  have kept : later.plan = plan := by
    rw [same]
    exact poll.frame.plan.trans same_plan
  rw [← kept]
  apply publish_begins_at
  · rw [same]
    show w.publish.1.pending ≠ []
    rw [left, ne_eq, List.drop_eq_nil_iff]
    exact Nat.not_le.mpr short
  · rw [same]
    exact next
  · exact still

/-- The first listener has the front snapshot and no room, the second is gone, and the third has
room for one of the two snapshots in the buffer. Where the first has room and the third is gone,
nobody holds the publish up. -/
theorem publish_goes_as_far_as_allowed_halfDelivered :
    let w := ((create .sample).run halfDelivered).1
    let freed := [.reader (.receive 0), .reader (.dropReading 2)]
    let roomy := ((create .sample).run (halfDelivered ++ freed)).1
    (w.publishing = false ∧ w.pending ≠ [] ∧ w.delivered = 1 ∧ w.publish.1.publishing = true) ∧
      (w.pending.length = 2 ∧ w.allowance 0 0 = 1 ∧ w.allowance 2 2 = 1) ∧
      (∃ place listener, w.subscribers[place]? = some listener ∧
        w.publish.1.subscribers[w.publish.1.delivered]? = some listener ∧
        w.publish.2.count .retired = w.allowance place listener ∧
        w.publish.1.pending = w.pending.drop (w.allowance place listener)) ∧
      (roomy.publishing = false ∧ roomy.pending ≠ [] ∧ roomy.publish.1.publishing = false) ∧
      roomy.publish.1.subscribers = roomy.subscribers.filter roomy.isListening ∧
      roomy.publish.1.mailbox 0 = (roomy.mailbox 0).fill (roomy.pending.drop 1) := by
  intro w freed roomy
  have idle : w.publishing = false ∧ w.pending ≠ [] ∧ w.delivered = 1 ∧
      w.publish.1.publishing = true := by decide +kernel
  have idle' : roomy.publishing = false ∧ roomy.pending ≠ [] ∧
      roomy.publish.1.publishing = false := by decide +kernel
  obtain ⟨_, _, _, _, _, waits, _⟩ :=
    publish_goes_as_far_as_allowed .sample halfDelivered idle.1 idle.2.1
  obtain ⟨_, _, _, _, returned, _, _⟩ :=
    publish_goes_as_far_as_allowed .sample (halfDelivered ++ freed) idle'.1 idle'.2.1
  obtain ⟨place, listener, here, _, next, _, least, _, left, _⟩ := waits idle.2.2.2
  obtain ⟨_, _, registered, sent⟩ := returned idle'.2.2
  exact ⟨idle, by decide +kernel, ⟨place, listener, here, next, least, left⟩, idle', registered,
    sent 0 0 (by decide +kernel) (by decide +kernel)⟩

end Watcher

end RolloutWatch
