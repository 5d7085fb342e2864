import RolloutWatch.Proofs.Watcher.Soundness

/-!
# Watchers that listeners cannot tell apart

An offer passes over those who are gone, so all that it does depends on the listeners
who still listen: those of them who have the front snapshot and those who do not. Two
watchers that agree on these are `Alike`, whoever else is registered with them, and
they stay so while they publish and while readers act on them.
-/

namespace RolloutWatch

namespace Mailbox

theorem receive_congr {box : Mailbox} {attached other : Bool}
    (same : box.stop attached = box.stop other) : box.receive attached = box.receive other := by
  rw [receive, receive, same]

theorem drain_congr {box : Mailbox} {attached other : Bool}
    (same : box.stop attached = box.stop other) : box.drain attached = box.drain other := by
  rw [drain, drain, same]

end Mailbox

namespace Watcher

/-- Those of some listeners whose mailbox takes snapshots. -/
def attentive (boxes : List Mailbox) (line : List Nat) : List Nat :=
  line.filter fun listener => boxes[listener]?.any (·.isListening)

section Offer

variable {capacity : Nat} {snapshot : Snapshot} {boxes : List Mailbox} {listener : Nat}

theorem attentive_cons_of_gone (gone : boxes[listener]?.any (·.isListening) = false)
    (line : List Nat) : attentive boxes (listener :: line) = attentive boxes line :=
  List.filter_cons_of_neg (by simp [gone])

theorem attentive_cons_of_listening {box : Mailbox} (present : boxes[listener]? = some box)
    (listening : box.isListening = true) (line : List Nat) :
    attentive boxes (listener :: line) = listener :: attentive boxes line :=
  List.filter_cons_of_pos (by simp [present, listening])

theorem attentive_append (boxes : List Mailbox) (first second : List Nat) :
    attentive boxes (first ++ second) = attentive boxes first ++ attentive boxes second :=
  List.filter_append ..

theorem attentive_set_push {box : Mailbox} (present : boxes[listener]? = some box)
    (line : List Nat) :
    attentive (boxes.set listener (box.push snapshot)) line = attentive boxes line :=
  List.filter_congr fun other _ => any_isListening_set_push present other

/-- Where fewer listen, those of some listeners who listen are found among those who did. -/
theorem attentive_attentive {later : List Mailbox}
    (fewer : ∀ listener : Nat, later[listener]?.any (·.isListening) = true →
      boxes[listener]?.any (·.isListening) = true) (line : List Nat) :
    attentive later (attentive boxes line) = attentive later line := by
  rw [attentive, attentive, List.filter_filter]
  refine List.filter_congr fun listener _ => ?_
  cases listening : later[listener]?.any (·.isListening) with
  | false => rfl
  | true => rw [fewer listener listening]; rfl

/-- An offer changes nobody's reading end. -/
theorem attentive_offer (line others : List Nat) :
    ∀ boxes, attentive (offer capacity snapshot line boxes).1 others = attentive boxes others := by
  induction line with
  | nil =>
      intro boxes
      rfl
  | cons listener line ih =>
      intro boxes
      obtain gone | ⟨box, present, listening, room | full⟩ :=
        gone_or_room_or_full capacity boxes listener
      · rw [offer_cons_of_gone gone]
        exact ih boxes
      · rw [offer_cons_of_room present listening room]
        exact (ih _).trans (attentive_set_push present others)
      · rw [offer_cons_of_full present listening full]

/-- An offer to those in line does the same as an offer to those of them who listen. It reaches
the same ones, and it comes to the end of the one line if it comes to the end of the other. -/
theorem offer_attentive (line : List Nat) :
    ∀ boxes,
      let reached := (offer capacity snapshot line boxes).2.length
      let others := offer capacity snapshot (attentive boxes line) boxes
      (offer capacity snapshot line boxes).1 = others.1 ∧
        attentive boxes (line.take reached) = (attentive boxes line).take others.2.length ∧
        attentive boxes (line.drop reached) = (attentive boxes line).drop others.2.length ∧
        (reached < line.length ↔ others.2.length < (attentive boxes line).length) := by
  induction line with
  | nil =>
      intro boxes
      exact ⟨rfl, rfl, rfl, Iff.rfl⟩
  | cons listener line ih =>
      intro boxes
      obtain gone | ⟨box, present, listening, room | full⟩ :=
        gone_or_room_or_full capacity boxes listener
      · obtain ⟨mailboxes, behind, ahead, short⟩ := ih boxes
        rw [attentive_cons_of_gone gone, offer_cons_of_gone gone]
        refine ⟨mailboxes, ?_, ahead, ?_⟩
        · exact (attentive_cons_of_gone gone _).trans behind
        · exact Nat.add_lt_add_iff_right.trans short
      · obtain ⟨mailboxes, behind, ahead, short⟩ := ih (boxes.set listener (box.push snapshot))
        simp only [attentive_set_push present] at mailboxes behind ahead short
        rw [attentive_cons_of_listening present listening,
          offer_cons_of_room present listening room, offer_cons_of_room present listening room]
        refine ⟨mailboxes, ?_, ahead, ?_⟩
        · rw [List.length_cons, List.length_cons, List.take_succ_cons, List.take_succ_cons,
            attentive_cons_of_listening present listening, behind]
        · exact Nat.add_lt_add_iff_right.trans (short.trans Nat.add_lt_add_iff_right.symm)
      · rw [attentive_cons_of_listening present listening,
          offer_cons_of_full present listening full, offer_cons_of_full present listening full]
        refine ⟨rfl, rfl, ?_, ?_⟩
        · exact attentive_cons_of_listening present listening line
        · exact iff_of_true (Nat.zero_lt_succ _) (Nat.zero_lt_succ _)

end Offer

/-- The subscribers who listen and have the front snapshot. -/
def had (w : Watcher) : List Nat :=
  attentive w.mailboxes (w.subscribers.take w.delivered)

/-- The subscribers who listen and do not have the front snapshot yet. -/
def awaiting (w : Watcher) : List Nat :=
  attentive w.mailboxes w.line

/-- The warnings so far, and those that there would be if all subscribers were unregistered. -/
def notices (w : Watcher) : List Warning :=
  w.subscribers.map .listenerDropped ++ w.warnings

theorem had_append_awaiting (w : Watcher) :
    w.had ++ w.awaiting = attentive w.mailboxes w.subscribers := by
  rw [had, awaiting, ← attentive_append, line, List.take_append_drop]

theorem had_of_start {w : Watcher} (start : w.delivered = 0) : w.had = [] := by
  rw [had, start]
  rfl

theorem awaiting_of_start {w : Watcher} (start : w.delivered = 0) :
    w.awaiting = attentive w.mailboxes w.subscribers := by
  rw [← had_append_awaiting, had_of_start start, List.nil_append]

/-- The subscribers whose reading end is gone. -/
def gone (w : Watcher) : List Nat :=
  w.subscribers.filter fun listener => !w.isListening listener

theorem warned_prune (w : Watcher) :
    w.prune.2.filterMap Move.warning? = w.gone.map .listenerDropped := by
  show (w.gone.map Move.unregistered).filterMap Move.warning? = _
  rw [List.filterMap_map]
  exact congrFun List.filterMap_eq_map w.gone

/-- Those who are unregistered are warned about. -/
theorem notices_prune (w : Watcher) : w.prune.1.notices.Perm w.notices := by
  have split : (w.prune.1.subscribers ++ w.gone).Perm w.subscribers :=
    List.filter_append_perm w.isListening w.subscribers
  calc
    w.prune.1.notices =
        w.prune.1.subscribers.map .listenerDropped ++ (w.warnings ++ w.gone.map .listenerDropped) := by
      rw [notices, warnings_prune, warned_prune]
    List.Perm _ (w.prune.1.subscribers.map .listenerDropped ++
        (w.gone.map .listenerDropped ++ w.warnings)) :=
      List.perm_append_comm.append_left _
    _ = (w.prune.1.subscribers ++ w.gone).map .listenerDropped ++ w.warnings := by
      rw [List.map_append, List.append_assoc]
    List.Perm _ w.notices := (split.map _).append_right _

section Offered

variable (w : Watcher) (snapshot : Snapshot)

/-- How many of those who wait an offer reaches. -/
def reach : Nat :=
  (offer w.plan.capacity snapshot w.awaiting w.mailboxes).2.length

theorem mailboxes_offered :
    (w.offered snapshot).mailboxes =
      (offer w.plan.capacity snapshot w.awaiting w.mailboxes).1 :=
  (offer_attentive w.line w.mailboxes).1

theorem had_offered :
    (w.offered snapshot).had = w.had ++ w.awaiting.take (w.reach snapshot) := by
  have behind : attentive w.mailboxes (w.line.take (w.offers snapshot).length) =
      w.awaiting.take (w.reach snapshot) :=
    (offer_attentive w.line w.mailboxes).2.1
  rw [had, offered, attentive_offer, List.take_add, attentive_append]
  exact congrArg (w.had ++ ·) behind

theorem awaiting_offered :
    (w.offered snapshot).awaiting = w.awaiting.drop (w.reach snapshot) := by
  rw [awaiting, offered, attentive_offer, line, ← List.drop_drop]
  exact (offer_attentive w.line w.mailboxes).2.2.1

theorem offers_short_iff :
    (w.offers snapshot).length < w.line.length ↔ w.reach snapshot < w.awaiting.length :=
  (offer_attentive w.line w.mailboxes).2.2.2

end Offered

/-- The listeners who listen cannot tell the watchers apart, and nobody is warned about in the one
who cannot be in the other. -/
structure Alike (a b : Watcher) : Prop where
  plan : a.plan = b.plan
  mailboxes : a.mailboxes = b.mailboxes
  gate : a.gate = b.gate
  pending : a.pending = b.pending
  had : a.had = b.had
  awaiting : a.awaiting = b.awaiting
  notices : a.notices.Perm b.notices

namespace Alike

variable {a b c : Watcher}

theorem refl (w : Watcher) : Alike w w :=
  ⟨rfl, rfl, rfl, rfl, rfl, rfl, .refl _⟩

theorem symm (h : Alike a b) : Alike b a :=
  ⟨h.plan.symm, h.mailboxes.symm, h.gate.symm, h.pending.symm, h.had.symm, h.awaiting.symm,
    h.notices.symm⟩

theorem trans (h₁ : Alike a b) (h₂ : Alike b c) : Alike a c :=
  ⟨h₁.plan.trans h₂.plan, h₁.mailboxes.trans h₂.mailboxes, h₁.gate.trans h₂.gate,
    h₁.pending.trans h₂.pending, h₁.had.trans h₂.had, h₁.awaiting.trans h₂.awaiting,
    h₁.notices.trans h₂.notices⟩

/-- Whether a publish waits is not seen. -/
theorem of_publishing (w : Watcher) (publishing : Bool) : Alike { w with publishing } w :=
  ⟨rfl, rfl, rfl, rfl, rfl, rfl, .refl _⟩

theorem subscribers (h : Alike a b) :
    attentive a.mailboxes a.subscribers = attentive b.mailboxes b.subscribers := by
  rw [← had_append_awaiting, ← had_append_awaiting, h.had, h.awaiting]

/-- Unregistering those who are gone at the start of a round is not seen. -/
theorem prune {w : Watcher} (start : w.delivered = 0) : Alike w.prune.1 w := by
  have pruned : w.prune.1.delivered = 0 := start
  refine ⟨rfl, rfl, rfl, rfl, ?_, ?_, ?_⟩
  · rw [had_of_start pruned, had_of_start start]
  · rw [awaiting_of_start pruned, awaiting_of_start start]
    exact List.filter_filter.trans (List.filter_congr fun _ _ => Bool.and_self _)
  · exact notices_prune w

theorem offered (h : Alike a b) (snapshot : Snapshot) :
    Alike (a.offered snapshot) (b.offered snapshot) := by
  have reach : a.reach snapshot = b.reach snapshot := by
    rw [Watcher.reach, Watcher.reach, h.plan, h.mailboxes, h.awaiting]
  refine ⟨h.plan, ?_, h.gate, h.pending, ?_, ?_, h.notices⟩
  · rw [mailboxes_offered, mailboxes_offered, h.plan, h.mailboxes, h.awaiting]
  · rw [had_offered, had_offered, h.had, h.awaiting, reach]
  · rw [awaiting_offered, awaiting_offered, h.awaiting, reach]

theorem short_iff (h : Alike a b) (snapshot : Snapshot) :
    (a.offers snapshot).length < a.line.length ↔ (b.offers snapshot).length < b.line.length := by
  rw [offers_short_iff, offers_short_iff, Watcher.reach, Watcher.reach, h.plan, h.mailboxes,
    h.awaiting]

theorem retired (h : Alike a b) (rest : List Snapshot) :
    Alike (a.retired rest) (b.retired rest) := by
  refine ⟨h.plan, h.mailboxes, h.gate, rfl, ?_, ?_, h.notices⟩
  · rw [had_of_start rfl, had_of_start rfl]
  · rw [awaiting_of_start rfl, awaiting_of_start rfl]
    exact h.subscribers

/-- Publishing takes alike watchers to alike watchers, and if the one publish waits, so does the
other. The induction is on the buffer. -/
theorem publishFrom (buffer : List Snapshot) :
    ∀ {a b : Watcher}, Alike a b → a.pending = buffer →
      Alike (a.publishFrom buffer).1 (b.publishFrom buffer).1 ∧
        (a.publishFrom buffer).1.publishing = (b.publishFrom buffer).1.publishing := by
  induction buffer with
  | nil =>
      intro a b h _
      exact ⟨⟨h.plan, h.mailboxes, h.gate, rfl, h.had, h.awaiting, h.notices⟩, rfl⟩
  | cons snapshot rest ih =>
      intro a b h front
      have offers := h.offered snapshot
      by_cases short : (a.offers snapshot).length < a.line.length
      · rw [publishFrom_of_full front short,
          publishFrom_of_full (h.pending ▸ front) ((h.short_iff snapshot).mp short)]
        have left := of_publishing (a.offered snapshot) true
        have right := of_publishing (b.offered snapshot) true
        exact ⟨(left.trans offers).trans right.symm, rfl⟩
      · rw [publishFrom_of_reached short,
          publishFrom_of_reached fun other => short ((h.short_iff snapshot).mpr other)]
        -- The rounds end with the same listeners, whoever was unregistered in them.
        have round := offers.retired rest
        have left : Alike ((a.offered snapshot).retired rest).prune.1 _ := prune rfl
        have right : Alike ((b.offered snapshot).retired rest).prune.1 _ := prune rfl
        exact ih ((left.trans round).trans right.symm) rfl

/-- A publish that begins anew does what one that goes on does. -/
theorem publish {w : Watcher} (waiting : w.pending ≠ []) :
    Alike (w.publishFrom w.pending).1 w.publish.1 ∧
      (w.publishFrom w.pending).1.publishing = w.publish.1.publishing := by
  rw [Watcher.publish, if_neg (by simpa using waiting)]
  split
  · next start => exact publishFrom w.pending (prune start).symm rfl
  · exact ⟨.refl _, rfl⟩

theorem mem_subscribers_iff (h : Alike a b) {listener : Nat}
    (listening : b.isListening listener = true) :
    listener ∈ a.subscribers ↔ listener ∈ b.subscribers := by
  have left : listener ∈ attentive a.mailboxes a.subscribers ↔ listener ∈ a.subscribers := by
    rw [attentive, List.mem_filter, h.mailboxes]
    exact and_iff_left listening
  have right : listener ∈ attentive b.mailboxes b.subscribers ↔ listener ∈ b.subscribers := by
    rw [attentive, List.mem_filter]
    exact and_iff_left listening
  rw [← left, ← right, h.subscribers]

theorem mailbox (h : Alike a b) (listener : Nat) : a.mailbox listener = b.mailbox listener := by
  rw [Watcher.mailbox, Watcher.mailbox, h.mailboxes]

/-- Whether a listener is still written to makes a difference only as long as it listens. -/
theorem stop (h : Alike a b) (listener : Nat) :
    (b.mailbox listener).stop (a.isRegistered listener) =
      (b.mailbox listener).stop (b.isRegistered listener) := by
  cases ends : (b.mailbox listener).readingEnd with
  | closed | dropped => rw [Mailbox.stop, Mailbox.stop, ends]
  | listening =>
      have listening : b.isListening listener = true := by
        rw [isListening_eq, Mailbox.isListening, ends]
        rfl
      have registered : a.isRegistered listener = b.isRegistered listener := by
        rw [Bool.eq_iff_iff, isRegistered, isRegistered, List.contains_iff_mem,
          List.contains_iff_mem]
        exact h.mem_subscribers_iff listening
      rw [registered]

/-- A reader gets the same from alike watchers. -/
theorem serve_congr (h : Alike a b) (action : ReaderAction) :
    (a.serve action).2 = (b.serve action).2 ∧
      (a.serve action).1.mailboxes = (b.serve action).1.mailboxes ∧
      (a.serve action).1.gate = (b.serve action).1.gate := by
  cases action with
  | receive listener =>
      rw [serve, serve, h.mailbox, Mailbox.receive_congr (h.stop listener)]
      exact ⟨rfl, congrArg (List.set · listener _) h.mailboxes, h.gate⟩
  | drain listener =>
      rw [serve, serve, h.mailbox, Mailbox.drain_congr (h.stop listener)]
      exact ⟨rfl, congrArg (List.set · listener _) h.mailboxes, h.gate⟩
  | closeReading listener | dropReading listener =>
      rw [serve, serve, h.mailbox]
      exact ⟨rfl, congrArg (List.set · listener _) h.mailboxes, h.gate⟩
  | isDone | cloneHandle | wait | startWait | pollWait =>
      rw [serve, serve, h.gate]
      exact ⟨rfl, h.mailboxes, rfl⟩

theorem serve (h : Alike a b) (action : ReaderAction) :
    Alike (a.serve action).1 (b.serve action).1 := by
  obtain ⟨_, mailboxes, gate⟩ := h.serve_congr action
  have fewer : ∀ listener, (a.serve action).1.isListening listener = true →
      a.isListening listener = true := fun _ => a.isListening_of_serve action
  obtain ⟨leftBoxes, leftGate, left, _⟩ := a.serve_frame action
  obtain ⟨rightBoxes, rightGate, right, _⟩ := b.serve_frame action
  rw [left, right] at mailboxes gate
  rw [left] at fewer
  rw [left, right]
  change leftBoxes = rightBoxes at mailboxes
  subst mailboxes
  refine ⟨h.plan, rfl, gate, h.pending, ?_, ?_, h.notices⟩
  · exact (attentive_attentive fewer _).symm.trans
      ((congrArg (attentive leftBoxes) h.had).trans (attentive_attentive (h.mailboxes ▸ fewer) _))
  · exact (attentive_attentive fewer _).symm.trans
      ((congrArg (attentive leftBoxes) h.awaiting).trans
        (attentive_attentive (h.mailboxes ▸ fewer) _))

end Alike

end Watcher

end RolloutWatch
