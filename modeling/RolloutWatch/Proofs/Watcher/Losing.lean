import RolloutWatch.Proofs.Watcher.Closing
import RolloutWatch.Proofs.Watcher.Registration

/-!
# Lost snapshots

A snapshot is lost to a listener when it is offered and the reading end is gone. The offer
itself says nothing of it. The listener is warned about when it is unregistered, behind the
round. If the publish is given up before, the listener stands before `delivered` among the
subscribers, and the next publish that gets through the round warns about it. So whoever
lost a snapshot was warned about, or is `Noted`: it stands where a publish will warn about
it. A close in between forgets those who stand there.
-/

namespace RolloutWatch

/-- The listener that a move found gone. -/
def Move.gone? : Move → Option Nat
  | refused listener => some listener
  | unregistered listener => some listener
  | _ => none

namespace Watcher

/-- In some step a snapshot was lost to the listener. -/
def Loses (steps : List Step) (listener : Nat) : Prop :=
  ∃ step ∈ steps, .refused listener ∈ step.2.moves

instance (steps : List Step) (listener : Nat) : Decidable (Loses steps listener) :=
  inferInstanceAs (Decidable (∃ step ∈ steps, .refused listener ∈ step.2.moves))

theorem loses_snoc {steps : List Step} {step : Step} {listener : Nat} :
    Loses (steps ++ [step]) listener ↔
      Loses steps listener ∨ .refused listener ∈ step.2.moves := by
  simp only [Loses, List.mem_append, List.mem_singleton, or_and_right, exists_or,
    exists_eq_left]

/-- The listener subscribed, and its reading end is gone. -/
def Left (w : Watcher) (listener : Nat) : Prop :=
  listener < w.mailboxes.length ∧ w.isListening listener = false

/-- The listener was warned about, or it stands before `delivered`. -/
def Noted (w : Watcher) (listener : Nat) : Prop :=
  .listenerDropped listener ∈ w.warnings ∨ listener ∈ w.subscribers.take w.delivered

/-- A move that finds a listener gone finds it among the subscribers. -/
theorem Advance.gone {w after : Watcher} {move : Move} (h : Advance w move after) {listener : Nat}
    (found : move.gone? = some listener) :
    listener ∈ w.subscribers ∧ w.isListening listener = false := by
  cases h with
  | accepted | retired => cases found
  | refused waiting next gone =>
      cases found
      exact ⟨List.mem_of_getElem? next, gone⟩
  | unregistered start place gone =>
      cases found
      exact ⟨by simp [place], gone⟩

theorem Advance.subscribers_subset {w after : Watcher} {move : Move} (h : Advance w move after) :
    after.subscribers ⊆ w.subscribers := by
  cases h with
  | accepted | refused | retired => exact List.Subset.refl _
  | unregistered start place gone =>
      rw [place]
      exact (List.Sublist.append_left (List.sublist_cons_self ..) _).subset

theorem Advances.gone {w after : Watcher} {moves : List Move} (h : Advances w moves after)
    {move : Move} (member : move ∈ moves) {listener : Nat} (found : move.gone? = some listener) :
    listener ∈ w.subscribers ∧ w.isListening listener = false := by
  induction h with
  | refl => cases member
  | cons step _ ih =>
      obtain rfl | later := List.mem_cons.mp member
      · exact step.gone found
      · obtain ⟨registered, gone⟩ := ih later
        exact ⟨step.subscribers_subset registered, step.isListening_eq listener ▸ gone⟩

theorem Advance.length_mailboxes {w after : Watcher} {move : Move} (h : Advance w move after) :
    after.mailboxes.length = w.mailboxes.length := by
  cases h with
  | accepted => exact List.length_set
  | refused | retired | unregistered => rfl

theorem Advances.length_mailboxes {w after : Watcher} {moves : List Move}
    (h : Advances w moves after) : after.mailboxes.length = w.mailboxes.length := by
  induction h with
  | refl => rfl
  | cons step _ ih => exact ih.trans step.length_mailboxes

/-- Those to whom an offer is lost are among those whom it reached. -/
theorem mem_take_of_refused {capacity : Nat} {snapshot : Snapshot} {listener : Nat}
    (queue : List Nat) :
    ∀ {boxes : List Mailbox}, .refused listener ∈ (offer capacity snapshot queue boxes).2 →
      listener ∈ queue.take (offer capacity snapshot queue boxes).2.length := by
  induction queue with
  | nil => exact nofun
  | cons next queue ih =>
      intro boxes lost
      obtain gone | ⟨box, present, listening, room | full⟩ :=
        gone_or_room_or_full capacity boxes next
      · rw [offer_cons_of_gone gone] at lost ⊢
        rw [List.length_cons, List.take_succ_cons, List.mem_cons]
        obtain same | later := List.mem_cons.mp lost
        · cases same
          exact .inl rfl
        · exact .inr (ih later)
      · rw [offer_cons_of_room present listening room] at lost ⊢
        rw [List.length_cons, List.take_succ_cons, List.mem_cons]
        obtain same | later := List.mem_cons.mp lost
        · cases same
        · exact .inr (ih later)
      · rw [offer_cons_of_full present listening full] at lost
        cases lost

/-- An offer that ends early leaves those to whom it was lost before `delivered`. -/
theorem Noted.offered {w : Watcher} {snapshot : Snapshot} {listener : Nat}
    (known : w.Noted listener ∨ .refused listener ∈ w.offers snapshot) :
    (w.offered snapshot).Noted listener := by
  have reached : (w.offered snapshot).subscribers.take (w.offered snapshot).delivered =
      w.subscribers.take w.delivered ++ w.line.take (w.offers snapshot).length :=
    List.take_add ..
  rw [Noted, reached, List.mem_append]
  obtain (warned | before) | lost := known
  · exact .inl warned
  · exact .inr (.inl before)
  · exact .inr (.inr (mem_take_of_refused _ lost))

theorem warned_of_prune {w : Watcher} {listener : Nat} (gone : w.isListening listener = false)
    (registered : listener ∈ w.subscribers) :
    .listenerDropped listener ∈ w.prune.1.warnings := by
  rw [warnings_prune, warned_prune, List.mem_append]
  refine .inr (List.mem_map_of_mem (List.mem_filter.mpr ⟨registered, ?_⟩))
  rw [gone]
  rfl

/-- Once a round is through, those before `delivered` and those to whom its snapshot was lost are
warned about. -/
theorem warned_of_round {w : Watcher} {listener : Nat} (gone : w.isListening listener = false)
    {snapshot : Snapshot} {rest : List Snapshot} (front : w.pending = snapshot :: rest)
    (known : w.Noted listener ∨ .refused listener ∈ w.offers snapshot) :
    .listenerDropped listener ∈ ((w.offered snapshot).retired rest).prune.1.warnings := by
  have still : ((w.offered snapshot).retired rest).isListening listener = false :=
    ((advances_offer _ w front rfl).isListening_eq listener).trans gone
  obtain (warned | before) | lost := known
  · exact List.mem_append_left _ warned
  · exact warned_of_prune still (List.mem_of_mem_take before)
  · exact warned_of_prune still
      (List.mem_of_mem_drop (List.mem_of_mem_take (mem_take_of_refused _ lost)))

theorem Noted.prune {w : Watcher} {listener : Nat} (start : w.delivered = 0)
    (known : w.Noted listener) : w.prune.1.Noted listener := by
  refine .inl (List.mem_append_left _ (known.resolve_right ?_))
  rw [start]
  exact List.not_mem_nil

theorem not_refused_prune (w : Watcher) (listener : Nat) : .refused listener ∉ w.prune.2 := by
  intro member
  obtain ⟨_, _, same⟩ := List.mem_map.mp member
  cases same

/-- The loop of a publish, by induction on the buffer: in each turn it gets through the round, or
it waits in the middle. -/
theorem noted_publishFrom {listener : Nat} (buffer : List Snapshot) :
    ∀ {w : Watcher}, w.pending = buffer → w.isListening listener = false →
      w.Noted listener ∨ .refused listener ∈ (w.publishFrom buffer).2 →
        (w.publishFrom buffer).1.Noted listener := by
  induction buffer with
  | nil =>
      intro w _ _ known
      exact known.resolve_right List.not_mem_nil
  | cons snapshot rest ih =>
      intro w front gone known
      by_cases short : (w.offers snapshot).length < w.line.length
      · rw [publishFrom_of_full front short] at known ⊢
        exact Noted.offered known
      · have listens := (advances_offer _ w front rfl).isListening_eq listener
        rw [publishFrom_of_reached short] at known ⊢
        refine ih rfl (listens.trans gone) ?_
        rw [List.append_assoc, List.mem_append, ← or_assoc, List.cons_append, List.mem_cons,
          List.mem_append] at known
        obtain here | same | removed | later := known
        · exact .inl (.inl (warned_of_round gone front here))
        · cases same
        · exact absurd removed (not_refused_prune _ listener)
        · exact .inr later

theorem noted_publish {w : Watcher} {listener : Nat} (gone : w.isListening listener = false)
    (known : w.Noted listener ∨ .refused listener ∈ w.publish.2) :
    w.publish.1.Noted listener := by
  generalize polled : w.publish = result at known ⊢
  rw [publish] at polled
  split at polled
  · subst polled
    exact known.resolve_right List.not_mem_nil
  · split at polled
    · next start =>
        subst polled
        refine noted_publishFrom (w := w.prune.1) w.pending rfl gone ?_
        rw [List.mem_append] at known
        obtain before | removed | later := known
        · exact .inl (before.prune start)
        · exact absurd removed (not_refused_prune w listener)
        · exact .inr later
    · subst polled
      exact noted_publishFrom w.pending rfl gone known

/-- Moves are made in a publish that is begun or resumed. -/
theorem act_of_moves {w : Watcher} {action : Action} (moved : (w.act action).result.moves ≠ []) :
    w.act action = published w.publish ∨
      w.publishing = true ∧ w.act action = published (w.publishFrom w.pending) := by
  cases action with
  | owner action =>
      rw [act] at moved ⊢
      split at moved
      · exact absurd rfl moved
      · next idle =>
          rw [if_neg idle]
          cases action with
          | publish => exact .inl rfl
          | subscribe | collect | close | takeHandle => exact absurd rfl moved
  | resume =>
      rw [act] at moved ⊢
      split at moved
      · next publishing =>
          rw [if_pos publishing, resume, if_pos publishing]
          exact .inr ⟨publishing, rfl⟩
      · exact absurd rfl moved
  | abandon =>
      rw [act] at moved
      split at moved <;> exact absurd rfl moved
  | reader action => exact absurd rfl moved

section Happens

variable {w after : Watcher} {action : Action} {outcome : Outcome} {listener : Nat}

/-- Without moves, only the close takes a note away. -/
theorem Happens.noted (happens : Happens w action after outcome) (silent : outcome.moves = [])
    (ok : w.Orderly) (opened : after.closed = false) (known : w.Noted listener) :
    after.Noted listener := by
  cases happens with
  | unavailable | refused | late | uncollected | collected | nothing | closedAgain | handle
  | abandoned => exact known
  | registered =>
      rw [Noted, List.take_append_of_le_length ok.cursor]
      exact known
  | @polled _ result waiting poll =>
      have silent : result.2 = [] := silent
      cases poll with
      | returned path | waits path =>
          cases silent
          cases path
          exact known
  | closed => cases opened
  | served action =>
      obtain ⟨_, _, same, _⟩ := w.serve_frame action
      rw [same]
      exact known

/-- A reading end that is gone is gone for good. -/
theorem Happens.left (happens : Happens w action after outcome) (left : w.Left listener) :
    after.Left listener := by
  obtain ⟨present, gone⟩ := left
  cases happens with
  | unavailable | refused | uncollected | collected | nothing | closedAgain | closed | handle
  | abandoned => exact ⟨present, gone⟩
  | late | registered =>
      refine ⟨?_, ?_⟩
      · rw [List.length_append]
        exact Nat.lt_add_right _ present
      · rw [isListening, List.getElem?_append_left present]
        exact gone
  | polled waiting poll =>
      cases poll with
      | returned path | waits path =>
          exact ⟨path.length_mailboxes ▸ present, (path.isListening_eq listener).trans gone⟩
  | served action =>
      refine ⟨?_, ?_⟩
      · obtain ⟨mailboxes, gate, same, length⟩ := w.serve_frame action
        rw [same]
        exact length ▸ present
      · rw [Bool.eq_false_iff]
        intro listening
        rw [w.isListening_of_serve action listening] at gone
        cases gone

/-- Whoever a snapshot is lost to has left. -/
theorem Happens.left_of_refused (happens : Happens w action after outcome) (ok : w.Orderly)
    (lost : .refused listener ∈ outcome.moves) : w.Left listener := by
  cases happens with
  | polled waiting poll =>
      cases poll with
      | returned path | waits path =>
          obtain ⟨registered, gone⟩ := path.gone lost rfl
          exact ⟨ok.present registered, gone⟩
  | _ => cases lost

end Happens

/-- An action leaves those noted whom it lost a snapshot to, and those who were noted before. -/
theorem noted_act {w : Watcher} {action : Action} {listener : Nat} (ok : w.Orderly)
    (gone : w.isListening listener = false) (opened : (w.act action).watcher.closed = false)
    (known : w.Noted listener ∨ .refused listener ∈ (w.act action).result.moves) :
    (w.act action).watcher.Noted listener := by
  by_cases silent : (w.act action).result.moves = []
  · rw [silent] at known
    exact (happens_act w action).noted silent ok opened (known.resolve_right List.not_mem_nil)
  · obtain begun | ⟨_, resumed⟩ := act_of_moves silent
    · rw [begun] at known ⊢
      exact noted_publish gone known
    · rw [resumed] at known ⊢
      exact noted_publishFrom w.pending rfl gone known

/-- Whoever lost a snapshot has left, and as long as the watcher is not closed is noted. -/
def LossesNoted (past : List Step) (w : Watcher) : Prop :=
  ∀ listener, Loses past listener → w.Left listener ∧ (w.closed = false → w.Noted listener)

theorem lossesNoted_nil (w : Watcher) : LossesNoted [] w := by
  rintro listener ⟨step, member, _⟩
  cases member

theorem LossesNoted.act {past : List Step} {w : Watcher} (noted : LossesNoted past w)
    (ok : w.Orderly) (action : Action) :
    LossesNoted (past ++ [(action, (w.act action).result)]) (w.act action).watcher := by
  intro listener lost
  have happens := happens_act w action
  rw [loses_snoc] at lost
  have left : w.Left listener :=
    lost.elim (fun before => (noted listener before).1) (happens.left_of_refused ok)
  refine ⟨happens.left left, ?_⟩
  intro opened
  have open_ : w.closed = false := by
    rw [Bool.eq_false_iff]
    intro closed
    rw [(happens.frozen ok closed).1] at opened
    cases opened
  exact noted_act ok left.2 opened (lost.imp_left fun before => (noted listener before).2 open_)

theorem lossesNoted_run (plan : Plan) (actions : List Action) :
    LossesNoted ((create plan).steps actions) ((create plan).run actions).1 :=
  (run_induction (P := fun past w => w.Sound ∧ LossesNoted past w)
    (fun _ w action ⟨sound, noted⟩ =>
      ⟨(happens_act w action).sound sound, noted.act sound.orderly action⟩)
    [] ⟨sound_create plan, lossesNoted_nil _⟩ actions).2

/-- Nobody who is registered was warned about. -/
theorem Accounted.not_warned {w : Watcher} (h : w.Accounted) (opened : w.closed = false)
    {listener : Nat} (registered : listener ∈ w.subscribers) :
    .listenerDropped listener ∉ w.warnings := by
  intro warned
  have nodup := (h.indices opened).nodup_iff.mpr List.nodup_range
  exact (List.nodup_append.mp nodup).2.2 listener registered listener
    (List.mem_map.mpr ⟨_, warned, rfl⟩) rfl

/-- As long as a watcher is not closed, whoever lost a snapshot was warned about or stands before
`delivered`, whatever publishes were given up. When a publish returns, everybody who lost a
snapshot in it or before was warned about. A close that comes earlier decides about the others:
they are never warned about, and those who stand before `delivered` are the only ones. -/
theorem losses_warned_of (plan : Plan) (actions : List Action) :
    let w := ((create plan).run actions).1
    let past := (create plan).steps actions
    w.closed = false →
      (∀ listener, Loses past listener →
        .listenerDropped listener ∈ w.warnings ∨ listener ∈ w.subscribers.take w.delivered) ∧
      (∀ action moves, (w.act action).result = .published moves true →
        ∀ listener, Loses (past ++ [(action, .published moves true)]) listener →
          .listenerDropped listener ∈ (w.act action).watcher.warnings) ∧
      (w.publishing = false → ∀ listener, Loses past listener → ∀ later,
        (.listenerDropped listener ∈ ((w.act (.owner .close)).watcher.run later).1.warnings ↔
          listener ∉ w.subscribers.take w.delivered)) := by
  intro w past opened
  have sound := sound_run plan actions
  have noted (listener : Nat) (lost : Loses past listener) : w.Noted listener :=
    (lossesNoted_run plan actions listener lost).2 opened
  refine ⟨noted, ?_, ?_⟩
  · intro action moves returned listener lost
    have steps : (create plan).steps (actions ++ [action]) =
        past ++ [(action, .published moves true)] := by
      rw [steps_append, steps_cons, returned]
      rfl
    have behind : ((create plan).run (actions ++ [action])).1 = (w.act action).watcher := by
      rw [run_append]
      rfl
    have happens := happens_act w action
    have ok := (happens.sound sound).orderly
    rw [returned] at happens
    obtain ⟨closed, _, empty⟩ := happens.published
    have later := (lossesNoted_run plan (actions ++ [action]) listener (steps ▸ lost)).2
    rw [behind] at later
    -- A publish that returned stands at the first subscriber, so nobody stands before.
    have start : (w.act action).watcher.delivered = 0 :=
      Nat.eq_zero_of_not_pos fun begun => ok.front begun (empty rfl)
    refine (later (closed.trans opened)).resolve_right ?_
    rw [start]
    exact List.not_mem_nil
  · intro idle listener lost later
    have shut : w.shut.Sound := by
      rw [← (act_close opened idle).1]
      exact (happens_act w _).sound sound
    rw [(act_close opened idle).1, (frozen_run shut rfl later).1]
    constructor
    · intro warned before
      exact (accounted_run plan actions).not_warned opened (List.mem_of_mem_take before) warned
    · exact (noted listener lost).resolve_right

/-- A listener goes while a publish waits for it, and the publish is given up while it waits for the
other one. -/
def lostInTheMiddle : List Action :=
  [.owner .subscribe, .owner .subscribe, .owner (.collect (.sample 0)),
    .owner (.collect (.sample 1)), .owner .publish, .reader (.dropReading 0), .resume, .abandon]

theorem losses_warned_of_lostInTheMiddle :
    let w := ((create .sample).run lostInTheMiddle).1
    let freed := lostInTheMiddle ++ [.reader (.receive 1)]
    let after := ((create .sample).run freed).1.act (.owner .publish)
    w.closed = false ∧ w.publishing = false ∧
      Loses ((create .sample).steps lostInTheMiddle) 0 ∧
      (.listenerDropped 0 ∈ w.warnings ∨ 0 ∈ w.subscribers.take w.delivered) ∧
      after.result = .published [.accepted 1, .retired, .unregistered 0] true ∧
      .listenerDropped 0 ∈ after.watcher.warnings ∧
      (.listenerDropped 0 ∈ ((w.act (.owner .close)).watcher.run [.owner .publish]).1.warnings ↔
        0 ∉ w.subscribers.take w.delivered) := by
  intro w freed after
  have opened : w.closed = false := by decide +kernel
  have open_ : ((create .sample).run freed).1.closed = false := by decide +kernel
  have idle : w.publishing = false := by decide +kernel
  have lost : Loses ((create .sample).steps lostInTheMiddle) 0 := by decide +kernel
  have returned : after.result = .published [.accepted 1, .retired, .unregistered 0] true := by
    rfl
  obtain ⟨noted, _, closing⟩ := losses_warned_of .sample lostInTheMiddle opened
  obtain ⟨_, published, _⟩ := losses_warned_of .sample freed open_
  exact ⟨opened, idle, lost, noted 0 lost, returned,
    published _ _ returned 0 (by decide +kernel), closing idle 0 lost _⟩

/-- If the watcher is closed behind that, the listener is never warned about. -/
theorem loss_forgotten_by_close :
    let actions := lostInTheMiddle ++ [.owner .close]
    let w := ((create .sample).run actions).1
    Loses ((create .sample).steps actions) 0 ∧ w.closed = true ∧
      ∀ later, .listenerDropped 0 ∉ (w.run later).1.warnings := by
  intro actions w
  have lost : Loses ((create .sample).steps actions) 0 := by decide +kernel
  have closed : w.closed = true := by decide +kernel
  refine ⟨lost, closed, ?_⟩
  intro later
  rw [(frozen_run (sound_run .sample actions) closed later).1]
  decide +kernel

end Watcher

end RolloutWatch
