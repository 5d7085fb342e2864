import RolloutWatch.Watcher.Publish

/-!
# Publishing, one move at a time

`Advance w move after` says what a single move of a publish requires of a watcher
and what it leaves behind. A poll of a publish is a chain of such moves, and it ends
in one of two ways: the buffer is empty and only listeners with a reading end are
still registered, or the publish waits at a mailbox that is full.

An invariant of publishing therefore has one case for each kind of move.
-/

namespace RolloutWatch

namespace Watcher

/-- One move of a publish takes a watcher to the next. -/
inductive Advance : Watcher → Move → Watcher → Prop where
  | accepted {w : Watcher} {snapshot : Snapshot} {rest : List Snapshot} {listener : Nat}
      {box : Mailbox}
      (front : w.pending = snapshot :: rest)
      (next : w.subscribers[w.delivered]? = some listener)
      (present : w.mailboxes[listener]? = some box)
      (listening : box.isListening = true)
      (room : box.held.length < w.plan.capacity) :
      Advance w (.accepted listener)
        { w with
          mailboxes := w.mailboxes.set listener (box.push snapshot)
          delivered := w.delivered + 1 }
  | refused {w : Watcher} {listener : Nat}
      (waiting : w.pending ≠ [])
      (next : w.subscribers[w.delivered]? = some listener)
      (gone : w.isListening listener = false) :
      Advance w (.refused listener) { w with delivered := w.delivered + 1 }
  | retired {w : Watcher} {snapshot : Snapshot} {rest : List Snapshot}
      (front : w.pending = snapshot :: rest)
      (all : w.subscribers.length ≤ w.delivered) :
      Advance w .retired { w with pending := rest, delivered := 0 }
  | unregistered {w : Watcher} {listener : Nat} {before behind : List Nat}
      (start : w.delivered = 0)
      (place : w.subscribers = before ++ listener :: behind)
      (gone : w.isListening listener = false) :
      Advance w (.unregistered listener)
        { w with
          subscribers := before ++ behind
          warnings := w.warnings ++ [.listenerDropped listener] }

/-- Moves of a publish, one after the other. -/
inductive Advances : Watcher → List Move → Watcher → Prop where
  | refl (w : Watcher) : Advances w [] w
  | cons {w middle after : Watcher} {move : Move} {moves : List Move} :
      Advance w move middle → Advances middle moves after → Advances w (move :: moves) after

namespace Advances

theorem trans {w middle after : Watcher} {first second : List Move}
    (h₁ : Advances w first middle) (h₂ : Advances middle second after) :
    Advances w (first ++ second) after := by
  induction h₁ with
  | refl => exact h₂
  | cons step _ ih => exact .cons step (ih h₂)

/-- What every move keeps, a chain of moves keeps. -/
theorem induction {P : Watcher → Prop}
    (keeps : ∀ {w move after}, Advance w move after → P w → P after)
    {w after : Watcher} {moves : List Move} (h : Advances w moves after) (start : P w) :
    P after := by
  induction h with
  | refl => exact start
  | cons step _ ih => exact ih (keeps step start)

end Advances

/-- The front snapshot waits for room in the mailbox of the subscriber at `delivered`. -/
structure Blocked (w : Watcher) : Prop where
  waiting : w.pending ≠ []
  full : ∃ listener box, w.subscribers[w.delivered]? = some listener ∧
    w.mailboxes[listener]? = some box ∧ box.isListening = true ∧
    w.plan.capacity ≤ box.held.length

/-- Every subscriber has a reading end that takes snapshots. -/
def Settled (w : Watcher) : Prop :=
  ∀ listener ∈ w.subscribers, w.isListening listener = true

theorem isListening_of_getElem? {w : Watcher} {listener : Nat} {box : Mailbox}
    (present : w.mailboxes[listener]? = some box) : w.isListening listener = box.isListening := by
  simp [isListening, present]

theorem settled_prune (w : Watcher) : w.prune.1.Settled := by
  intro listener member
  exact (List.mem_filter.mp member).2

/-- Unregistering those who are gone is a move for each of them, in order. The list is taken apart
behind the subscribers that have been looked at. -/
theorem advances_unregister (line : List Nat) :
    ∀ (w : Watcher) (kept : List Nat), w.delivered = 0 → w.subscribers = kept ++ line →
      Advances w ((line.filter fun listener => !w.isListening listener).map .unregistered)
        { w with
          subscribers := kept ++ line.filter w.isListening
          warnings := w.warnings ++
            ((line.filter fun listener => !w.isListening listener).map .unregistered).filterMap
              Move.warning? } := by
  induction line with
  | nil =>
      intro w kept _ place
      simp only [List.filter_nil, List.map_nil, List.filterMap_nil, ← place, List.append_nil]
      exact .refl w
  | cons listener line ih =>
      intro w kept start place
      cases listening : w.isListening listener with
      | true =>
          have later := ih w (kept ++ [listener]) start (by simpa using place)
          simpa [List.filter_cons, listening] using later
      | false =>
          have later := ih { w with
              subscribers := kept ++ line
              warnings := w.warnings ++ [.listenerDropped listener] } kept start rfl
          have first := Advance.unregistered start place listening
          rw [List.filter_cons_of_pos (by simp [listening]),
            List.filter_cons_of_neg (by simp [listening])]
          simp only [List.append_assoc] at later
          exact .cons first later

theorem advances_prune {w : Watcher} (start : w.delivered = 0) :
    Advances w w.prune.2 w.prune.1 :=
  advances_unregister w.subscribers w [] start rfl

section Offer

variable {capacity : Nat} {snapshot : Snapshot} {listener : Nat} {queue : List Nat}
  {boxes : List Mailbox}

theorem offer_cons_of_gone (gone : boxes[listener]?.any (·.isListening) = false) :
    offer capacity snapshot (listener :: queue) boxes =
      ((offer capacity snapshot queue boxes).1,
        .refused listener :: (offer capacity snapshot queue boxes).2) := by
  rw [offer]
  split
  · rfl
  · next box present =>
      have deaf : box.isListening = false := by simpa [present] using gone
      simp [deaf]

theorem offer_cons_of_room {box : Mailbox} (present : boxes[listener]? = some box)
    (listening : box.isListening = true) (room : box.held.length < capacity) :
    offer capacity snapshot (listener :: queue) boxes =
      ((offer capacity snapshot queue (boxes.set listener (box.push snapshot))).1,
        .accepted listener ::
          (offer capacity snapshot queue (boxes.set listener (box.push snapshot))).2) := by
  rw [offer]
  simp [present, listening, room]

theorem offer_cons_of_full {box : Mailbox} (present : boxes[listener]? = some box)
    (listening : box.isListening = true) (full : capacity ≤ box.held.length) :
    offer capacity snapshot (listener :: queue) boxes = (boxes, []) := by
  rw [offer]
  simp [present, listening, Nat.not_lt.mpr full]

/-- A mailbox in line is gone, has room, or is full. -/
theorem gone_or_room_or_full (capacity : Nat) (boxes : List Mailbox) (listener : Nat) :
    boxes[listener]?.any (·.isListening) = false ∨
      ∃ box, boxes[listener]? = some box ∧ box.isListening = true ∧
        (box.held.length < capacity ∨ capacity ≤ box.held.length) := by
  cases present : boxes[listener]? with
  | none => exact .inl rfl
  | some box =>
      cases listening : box.isListening with
      | false => exact .inl (by simp [listening])
      | true => exact .inr ⟨box, rfl, listening, Nat.lt_or_ge _ _⟩

/-- An offer that ends early ends at a mailbox that is full. -/
theorem full_of_offer_lt :
    ∀ {boxes : List Mailbox}, (offer capacity snapshot queue boxes).2.length < queue.length →
      ∃ listener box, queue[(offer capacity snapshot queue boxes).2.length]? = some listener ∧
        (offer capacity snapshot queue boxes).1[listener]? = some box ∧
        box.isListening = true ∧ capacity ≤ box.held.length := by
  induction queue with
  | nil =>
      intro boxes short
      exact absurd short (Nat.not_lt_zero _)
  | cons listener queue ih =>
      intro boxes short
      obtain gone | ⟨box, present, listening, room | full⟩ :=
        gone_or_room_or_full capacity boxes listener
      · rw [offer_cons_of_gone gone] at short ⊢
        exact ih (Nat.lt_of_succ_lt_succ short)
      · rw [offer_cons_of_room present listening room] at short ⊢
        exact ih (Nat.lt_of_succ_lt_succ short)
      · rw [offer_cons_of_full present listening full]
        exact ⟨listener, box, rfl, present, listening, full⟩

end Offer

/-- The subscribers that do not have the front snapshot yet. -/
def line (w : Watcher) : List Nat :=
  w.subscribers.drop w.delivered

/-- The moves in which a snapshot is offered to those in line. -/
def offers (w : Watcher) (snapshot : Snapshot) : List Move :=
  (offer w.plan.capacity snapshot w.line w.mailboxes).2

/-- The watcher behind the offers of a snapshot. -/
def offered (w : Watcher) (snapshot : Snapshot) : Watcher :=
  { w with
    mailboxes := (offer w.plan.capacity snapshot w.line w.mailboxes).1
    delivered := w.delivered + (w.offers snapshot).length }

/-- The watcher behind the retirement of the front snapshot. -/
def retired (w : Watcher) (rest : List Snapshot) : Watcher :=
  { w with pending := rest, delivered := 0 }

section Round

variable {w : Watcher} {snapshot : Snapshot} {rest : List Snapshot}

theorem publishFrom_of_full (front : w.pending = snapshot :: rest)
    (short : (w.offers snapshot).length < w.line.length) :
    w.publishFrom (snapshot :: rest) =
      ({ w.offered snapshot with publishing := true }, w.offers snapshot) := by
  rw [publishFrom, ← front]
  exact if_pos short

theorem publishFrom_of_reached (reached : ¬(w.offers snapshot).length < w.line.length) :
    w.publishFrom (snapshot :: rest) =
      ((((w.offered snapshot).retired rest).prune.1.publishFrom rest).1,
        w.offers snapshot ++ .retired :: ((w.offered snapshot).retired rest).prune.2 ++
          (((w.offered snapshot).retired rest).prune.1.publishFrom rest).2) := by
  rw [publishFrom]
  exact if_neg reached

end Round

/-- An offer to those in line is a move for each listener that it reaches. -/
theorem advances_offer {snapshot : Snapshot} {rest : List Snapshot} (waiting : List Nat) :
    ∀ (w : Watcher), w.pending = snapshot :: rest → w.line = waiting →
      Advances w (w.offers snapshot) (w.offered snapshot) := by
  induction waiting with
  | nil =>
      intro w _ place
      rw [offered, offers, place]
      exact .refl w
  | cons listener waiting ih =>
      intro w front place
      have next : w.subscribers[w.delivered]? = some listener := by
        rw [← Nat.add_zero w.delivered, ← List.getElem?_drop, ← line, place]
        rfl
      have behind : w.subscribers.drop (w.delivered + 1) = waiting := by
        rw [← List.drop_drop, ← line, place]
        rfl
      obtain gone | ⟨box, present, listening, room | full⟩ :=
        gone_or_room_or_full w.plan.capacity w.mailboxes listener
      · have first := Advance.refused (w := w) (by simp [front]) next gone
        have later := ih { w with delivered := w.delivered + 1 } front behind
        rw [offered, offers, place, offer_cons_of_gone gone, List.length_cons, Nat.add_comm _ 1,
          ← Nat.add_assoc]
        rw [offered, offers, line, behind] at later
        exact .cons first later
      · have first := Advance.accepted front next present listening room
        have later := ih { w with
          mailboxes := w.mailboxes.set listener (box.push snapshot)
          delivered := w.delivered + 1 } front behind
        rw [offered, offers, place, offer_cons_of_room present listening room, List.length_cons,
          Nat.add_comm _ 1, ← Nat.add_assoc]
        rw [offered, offers, line, behind] at later
        exact .cons first later
      · rw [offered, offers, place, offer_cons_of_full present listening full]
        exact .refl w

theorem blocked_offered {w : Watcher} {snapshot : Snapshot} {rest : List Snapshot}
    (front : w.pending = snapshot :: rest) (short : (w.offers snapshot).length < w.line.length) :
    (w.offered snapshot).Blocked := by
  obtain ⟨listener, box, next, present, listening, full⟩ := full_of_offer_lt short
  refine ⟨by simp [offered, front], listener, box, ?_, present, listening, full⟩
  rwa [line, List.getElem?_drop] at next

/-- What a poll of a publish comes to: it returns with an empty buffer, or it waits. -/
inductive Polled (w : Watcher) : Watcher × List Move → Prop where
  | returned {after : Watcher} {moves : List Move}
      (path : Advances w moves after)
      (empty : after.pending = [])
      (start : after.delivered = 0)
      (settled : after.Settled) :
      Polled w ({ after with publishing := false }, moves)
  | waits {after : Watcher} {moves : List Move}
      (path : Advances w moves after)
      (blocked : after.Blocked) :
      Polled w ({ after with publishing := true }, moves)

theorem Polled.prepend {w middle : Watcher} {first : List Move} {result : Watcher × List Move}
    (path : Advances w first middle) (h : Polled middle result) :
    Polled w (result.1, first ++ result.2) := by
  cases h with
  | returned later empty start settled =>
      exact .returned (path.trans later) empty start settled
  | waits later blocked => exact .waits (path.trans later) blocked

/-- The loop of a publish, by induction on the buffer. Each turn is the offers of one snapshot
and, if all were offered it, its retirement and the unregistering behind it. -/
theorem polled_publishFrom (buffer : List Snapshot) :
    ∀ (w : Watcher), w.pending = buffer → (buffer = [] → w.delivered = 0 ∧ w.Settled) →
      Polled w (w.publishFrom buffer) := by
  induction buffer with
  | nil =>
      intro w empty begun
      obtain ⟨start, settled⟩ := begun rfl
      have here : Polled w ({ w with publishing := false }, []) :=
        .returned (.refl w) empty start settled
      rw [publishFrom, ← empty]
      exact here
  | cons snapshot rest ih =>
      intro w front _
      have offers := advances_offer _ w front rfl
      by_cases short : (w.offers snapshot).length < w.line.length
      · rw [publishFrom_of_full front short]
        exact .waits offers (blocked_offered front short)
      · have all : (w.offered snapshot).subscribers.length ≤ (w.offered snapshot).delivered := by
          rw [line, List.length_drop] at short
          simp only [offered]
          omega
        have round := offers.trans (.cons (.retired front all) (advances_prune rfl))
        have later := ih ((w.offered snapshot).retired rest).prune.1 rfl fun _ =>
          ⟨rfl, settled_prune _⟩
        rw [publishFrom_of_reached short]
        exact later.prepend round

/-- A publish of a buffer that is not empty. -/
theorem polled_publish {w : Watcher} (waiting : w.pending ≠ []) : Polled w w.publish := by
  rw [publish]
  split
  · next empty => exact absurd (List.isEmpty_iff.mp empty) waiting
  · split
    · next start =>
        have later := polled_publishFrom w.pending w.prune.1 rfl fun empty =>
          absurd empty waiting
        exact later.prepend (advances_prune start)
    · exact polled_publishFrom w.pending w rfl fun empty => absurd empty waiting

/-- A publish that waits and is polled again. -/
theorem polled_resume {w : Watcher} (waiting : w.pending ≠ []) (publishing : w.publishing = true) :
    Polled w w.resume := by
  rw [resume, if_pos publishing]
  exact polled_publishFrom w.pending w rfl fun empty => absurd empty waiting

end Watcher

end RolloutWatch
