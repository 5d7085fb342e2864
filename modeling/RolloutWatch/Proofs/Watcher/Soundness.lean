import RolloutWatch.Proofs.Watcher.Acting
import RolloutWatch.Proofs.Watcher.History

/-!
# Sound watchers

`Orderly` is what the parts of a watcher owe one another at any time: subscribers are
numbered in the order of their registration, every listener with an open reading end
is registered until the close, and `delivered` is a place in the list of subscribers
that means something only while there is a front snapshot. Each move of a publish
keeps it.

Between two actions a watcher is moreover `Sound`: a round that has begun has
somebody left to offer the front snapshot to, and a publish waits only for that.
-/

namespace RolloutWatch

namespace Watcher

/-- What holds of a watcher at any time. -/
structure Orderly (w : Watcher) : Prop where
  ascending : w.subscribers.Pairwise (· < ·)
  below : ∀ listener ∈ w.subscribers, listener < w.nextIndex
  numbered : w.closed = false → w.nextIndex = w.mailboxes.length
  vacant : w.closed = true → w.subscribers = []
  listening : w.closed = false → ∀ listener, w.isListening listener = true →
    listener ∈ w.subscribers
  cursor : w.delivered ≤ w.subscribers.length
  front : 0 < w.delivered → w.pending ≠ []

/-- What holds of a watcher between two actions. -/
structure Sound (w : Watcher) : Prop where
  orderly : w.Orderly
  inside : w.delivered = 0 ∨ w.delivered < w.subscribers.length
  waiting : w.publishing = true → w.pending ≠ []

theorem Orderly.opened {w : Watcher} (h : w.Orderly) {listener : Nat}
    (member : listener ∈ w.subscribers) : w.closed = false := by
  cases closed : w.closed with
  | false => rfl
  | true =>
      rw [h.vacant closed] at member
      cases member

/-- Every subscriber has a mailbox. -/
theorem Orderly.present {w : Watcher} (h : w.Orderly) {listener : Nat}
    (member : listener ∈ w.subscribers) : listener < w.mailboxes.length :=
  h.numbered (h.opened member) ▸ h.below listener member

/-- Subscribers at different places are different. -/
theorem Orderly.place_unique {w : Watcher} (h : w.Orderly) {listener place other : Nat}
    (here : w.subscribers[place]? = some listener) (there : w.subscribers[other]? = some listener) :
    place = other := by
  have nodup : w.subscribers.Nodup := h.ascending.imp fun lt => Nat.ne_of_lt lt
  exact (List.getElem?_inj (List.getElem?_eq_some_iff.mp here).1 nodup).mp
    (here.trans there.symm)

/-- A snapshot that is put into a mailbox changes nobody's reading end. -/
theorem any_isListening_set_push {boxes : List Mailbox} {listener : Nat} {box : Mailbox}
    {snapshot : Snapshot} (present : boxes[listener]? = some box) (other : Nat) :
    (boxes.set listener (box.push snapshot))[other]?.any (·.isListening) =
      boxes[other]?.any (·.isListening) := by
  by_cases same : listener = other
  · subst same
    have inside := (List.getElem?_eq_some_iff.mp present).1
    rw [List.getElem?_set_self inside, present]
    rfl
  · rw [List.getElem?_set_ne same]

/-- No move changes who listens. -/
theorem Advance.isListening_eq {w after : Watcher} {move : Move} (h : Advance w move after)
    (listener : Nat) : after.isListening listener = w.isListening listener := by
  cases h with
  | accepted _ _ present => exact any_isListening_set_push present listener
  | refused => rfl
  | retired => rfl
  | unregistered => rfl

theorem Advances.isListening_eq {w after : Watcher} {moves : List Move}
    (h : Advances w moves after) (listener : Nat) :
    after.isListening listener = w.isListening listener := by
  induction h with
  | refl => rfl
  | cons step _ ih => exact ih.trans (step.isListening_eq listener)

/-- What no move of a publish touches. -/
structure Undisturbed (w after : Watcher) : Prop where
  plan : after.plan = w.plan
  ledger : after.ledger = w.ledger
  gate : after.gate = w.gate
  closed : after.closed = w.closed
  nextIndex : after.nextIndex = w.nextIndex

theorem Advance.frame {w after : Watcher} {move : Move} (h : Advance w move after) :
    Undisturbed w after := by
  cases h <;> exact ⟨rfl, rfl, rfl, rfl, rfl⟩

theorem Advances.frame {w after : Watcher} {moves : List Move} (h : Advances w moves after) :
    Undisturbed w after := by
  induction h with
  | refl => exact ⟨rfl, rfl, rfl, rfl, rfl⟩
  | cons step _ ih =>
      have first := step.frame
      exact ⟨ih.plan.trans first.plan, ih.ledger.trans first.ledger, ih.gate.trans first.gate,
        ih.closed.trans first.closed, ih.nextIndex.trans first.nextIndex⟩

theorem Polled.frame {w : Watcher} {result : Watcher × List Move} (h : Polled w result) :
    Undisturbed w result.1 := by
  cases h with
  | returned path | waits path =>
      have kept := path.frame
      exact ⟨kept.plan, kept.ledger, kept.gate, kept.closed, kept.nextIndex⟩

theorem Advance.orderly {w after : Watcher} {move : Move} (h : Advance w move after)
    (ok : w.Orderly) : after.Orderly := by
  have listens := h.isListening_eq
  cases h with
  | accepted front next present listening room =>
      have inside := (List.getElem?_eq_some_iff.mp next).1
      refine ⟨ok.ascending, ok.below, ?_, ok.vacant, ?_, inside, ?_⟩
      · intro opened
        exact (ok.numbered opened).trans List.length_set.symm
      · intro opened listener listening
        exact ok.listening opened listener (listens listener ▸ listening)
      · intro _
        simp [front]
  | refused waiting next gone =>
      have inside := (List.getElem?_eq_some_iff.mp next).1
      exact ⟨ok.ascending, ok.below, ok.numbered, ok.vacant, ok.listening, inside,
        fun _ => waiting⟩
  | retired front all =>
      exact ⟨ok.ascending, ok.below, ok.numbered, ok.vacant, ok.listening, Nat.zero_le _,
        fun lt => absurd lt (Nat.lt_irrefl 0)⟩
  | @unregistered listener before behind start place gone =>
      have kept : (before ++ behind).Sublist w.subscribers := by
        rw [place]
        exact List.Sublist.append_left (List.sublist_cons_self listener behind) before
      have member : listener ∈ w.subscribers := by simp [place]
      have opened := ok.opened member
      refine ⟨ok.ascending.sublist kept, ?_, ok.numbered, ?_, ?_, ?_, ?_⟩
      · intro other member
        exact ok.below other (kept.subset member)
      · intro closed
        rw [opened] at closed
        contradiction
      · intro _ other listening
        -- Whoever is unregistered does not listen, so those who listen are still there.
        have member := ok.listening opened other listening
        have ne : other ≠ listener := by
          rintro rfl
          exact Bool.false_ne_true (gone.symm.trans listening)
        rw [place, List.mem_append, List.mem_cons] at member
        rw [List.mem_append]
        obtain here | here | here := member
        · exact .inl here
        · exact absurd here ne
        · exact .inr here
      · exact start ▸ Nat.zero_le _
      · intro lt
        exact absurd (start ▸ lt) (Nat.lt_irrefl 0)

theorem Advances.orderly {w after : Watcher} {moves : List Move} (h : Advances w moves after)
    (ok : w.Orderly) : after.Orderly :=
  h.induction Advance.orderly ok

/-- Whether a publish waits is no part of the order. -/
theorem Orderly.of_publishing {w : Watcher} (publishing : Bool) (h : w.Orderly) :
    { w with publishing }.Orderly :=
  ⟨h.ascending, h.below, h.numbered, h.vacant, h.listening, h.cursor, h.front⟩

theorem Polled.sound {w : Watcher} {result : Watcher × List Move} (h : Polled w result)
    (ok : w.Orderly) : result.1.Sound := by
  cases h with
  | returned path empty start settled =>
      exact ⟨(path.orderly ok).of_publishing false, .inl start, nofun⟩
  | waits path blocked =>
      obtain ⟨waiting, listener, box, next, _⟩ := blocked
      exact ⟨(path.orderly ok).of_publishing true,
        .inr (List.getElem?_eq_some_iff.mp next).1, fun _ => waiting⟩

/-- A watcher that gains a mailbox with an open reading end. -/
theorem isListening_append {w : Watcher} {listener : Nat}
    (listening : { w with mailboxes := w.mailboxes ++ [({} : Mailbox)] }.isListening listener
      = true) :
    w.isListening listener = true ∨ listener = w.mailboxes.length := by
  by_cases old : listener < w.mailboxes.length
  · left
    rwa [isListening, List.getElem?_append_left old] at listening
  · right
    by_cases new : listener = w.mailboxes.length
    · exact new
    · have absent : (w.mailboxes ++ [({} : Mailbox)])[listener]? = none := by
        rw [List.getElem?_eq_none_iff, List.length_append, List.length_singleton]
        omega
      rw [isListening, absent] at listening
      cases listening

/-- Only the mailboxes, the gate, the ledger and further snapshots in the buffer differ, and
nobody listens who did not. -/
theorem Sound.of_frame {w : Watcher} (h : w.Sound) {mailboxes : List Mailbox} (gate : Gate)
    (ledger : Ledger) (more : List Snapshot) (same : mailboxes.length = w.mailboxes.length)
    (listens : ∀ listener, { w with mailboxes }.isListening listener = true →
      w.isListening listener = true) :
    { w with mailboxes, gate, ledger, pending := w.pending ++ more }.Sound := by
  have o := h.orderly
  refine ⟨⟨o.ascending, o.below, ?_, o.vacant, ?_, o.cursor, ?_⟩, h.inside, ?_⟩
  · intro opened
    exact (o.numbered opened).trans same.symm
  · intro opened listener listening
    exact o.listening opened listener (listens listener listening)
  · intro lt empty
    exact o.front lt (List.append_eq_nil_iff.mp empty).1
  · intro publishing empty
    exact h.waiting publishing (List.append_eq_nil_iff.mp empty).1

theorem Happens.sound {w after : Watcher} {action : Action} {outcome : Outcome}
    (happens : Happens w action after outcome) (h : w.Sound) : after.Sound := by
  have o := h.orderly
  cases happens with
  | unavailable | refused | uncollected | closedAgain => exact h
  | late closed =>
      refine ⟨⟨o.ascending, o.below, ?_, o.vacant, ?_, o.cursor, o.front⟩, h.inside, h.waiting⟩
      · intro opened
        rw [closed] at opened
        contradiction
      · intro opened
        rw [closed] at opened
        contradiction
  | registered opened =>
      refine ⟨⟨?_, ?_, ?_, ?_, ?_, ?_, o.front⟩, ?_, h.waiting⟩
      · refine List.pairwise_append.mpr ⟨o.ascending, List.pairwise_singleton .., ?_⟩
        intro listener member other last
        rw [List.mem_singleton] at last
        exact last ▸ o.below listener member
      · intro listener member
        obtain old | new := List.mem_append.mp member
        · exact Nat.lt_succ_of_lt (o.below listener old)
        · rw [List.mem_singleton.mp new]
          exact Nat.lt_succ_self _
      · intro _
        rw [List.length_append, List.length_singleton, o.numbered opened]
      · intro closed
        rw [opened] at closed
        contradiction
      · intro _ listener listening
        rw [List.mem_append, List.mem_singleton]
        obtain old | new := isListening_append listening
        · exact .inl (o.listening opened listener old)
        · exact .inr (new.trans (o.numbered opened).symm)
      · rw [List.length_append]
        exact Nat.le_add_right_of_le o.cursor
      · rw [List.length_append]
        exact h.inside.imp id fun lt => Nat.lt_add_right _ lt
  | collected read => exact h.of_frame _ _ _ rfl fun _ => id
  | nothing => exact ⟨o.of_publishing false, h.inside, nofun⟩
  | polled waiting poll => exact poll.sound o
  | closed opened =>
      refine ⟨⟨.nil, ?_, ?_, fun _ => rfl, ?_, Nat.zero_le _, ?_⟩, .inl rfl, h.waiting⟩
      · intro listener member
        cases member
      · intro closed
        cases closed
      · intro closed
        cases closed
      · intro lt
        exact absurd lt (Nat.lt_irrefl 0)
  | handle given => exact ⟨⟨o.ascending, o.below, o.numbered, o.vacant, o.listening, o.cursor,
      o.front⟩, h.inside, h.waiting⟩
  | abandoned => exact ⟨o.of_publishing false, h.inside, nofun⟩
  | served action =>
      obtain ⟨mailboxes, gate, same, length⟩ := w.serve_frame action
      have listens : ∀ listener, { w with mailboxes }.isListening listener = true →
          w.isListening listener = true := by
        intro listener listening
        apply w.isListening_of_serve action
        rw [same]
        exact listening
      have kept := h.of_frame gate w.ledger [] length listens
      rw [List.append_nil] at kept
      exact same ▸ kept

/-- What a publish leaves alone, and that one that returns leaves nothing in the buffer. -/
theorem Happens.published {w after : Watcher} {action : Action} {moves : List Move}
    {completed : Bool} (happens : Happens w action after (.published moves completed)) :
    after.closed = w.closed ∧ (∀ listener, after.isListening listener = w.isListening listener) ∧
      (completed = true → after.pending = []) := by
  cases happens with
  | nothing empty => exact ⟨rfl, fun _ => rfl, fun _ => empty⟩
  | polled waiting poll =>
      cases poll with
      | returned path empty => exact ⟨path.frame.closed, path.isListening_eq, fun _ => empty⟩
      | waits path => exact ⟨path.frame.closed, path.isListening_eq, nofun⟩

theorem sound_create (plan : Plan) : (create plan).Sound := by
  refine ⟨⟨.nil, ?_, fun _ => rfl, fun _ => rfl, ?_, Nat.zero_le _, ?_⟩, .inl rfl, nofun⟩
  · intro listener member
    cases member
  · intro _ listener listening
    cases listening
  · intro lt
    exact absurd lt (Nat.lt_irrefl 0)

/-- Every reachable watcher is sound. -/
theorem sound_run (plan : Plan) (actions : List Action) : ((create plan).run actions).1.Sound :=
  run_invariant (fun w action h => (happens_act w action).sound h) (sound_create plan) actions

end Watcher

end RolloutWatch
