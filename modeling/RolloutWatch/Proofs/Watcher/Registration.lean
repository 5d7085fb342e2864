import Mathlib.Data.List.Nodup
import RolloutWatch.Proofs.Watcher.Alike
import RolloutWatch.Proofs.Watcher.Logging

/-!
# What becomes of those who subscribe

Until the close, everybody who subscribed is registered or has been warned about, and
nobody is or was both or twice. Whoever listens is registered. A publish that returns
leaves no one registered who does not listen, so that by then there is one warning for
each who is gone. The close ends this: nobody is registered or warned about any more.
-/

namespace RolloutWatch

/-- The number of the listener that a warning is about. -/
def Warning.listener : Warning → Nat
  | listenerDropped index => index

namespace Watcher

/-- A move that unregisters a listener warns about that listener. -/
theorem Advance.notices {w after : Watcher} {move : Move} (h : Advance w move after) :
    after.notices.Perm w.notices := by
  cases h with
  | accepted | refused | retired => exact .refl _
  | @unregistered listener before behind start place gone =>
      have there : w.notices =
          before.map .listenerDropped ++ .listenerDropped listener ::
            (behind.map .listenerDropped ++ w.warnings) := by
        rw [Watcher.notices, place, List.map_append, List.map_cons, List.append_assoc,
          List.cons_append]
      calc
        (before ++ behind).map Warning.listenerDropped ++
              (w.warnings ++ [.listenerDropped listener]) =
            before.map .listenerDropped ++ (behind.map .listenerDropped ++ w.warnings) ++
              [.listenerDropped listener] := by
          simp only [List.map_append, List.append_assoc]
        List.Perm _ (.listenerDropped listener ::
            (before.map .listenerDropped ++ (behind.map .listenerDropped ++ w.warnings))) :=
          List.perm_append_singleton ..
        List.Perm _ w.notices := there ▸ List.perm_middle.symm

theorem Advances.notices {w after : Watcher} {moves : List Move} (h : Advances w moves after) :
    after.notices.Perm w.notices := by
  induction h with
  | refl => exact .refl _
  | cons step _ ih => exact ih.trans step.notices

/-- The warnings are those that the moves give rise to. -/
theorem Advance.warnings_eq {w after : Watcher} {move : Move} (h : Advance w move after) :
    after.warnings = w.warnings ++ move.warning?.toList := by
  cases h with
  | accepted | refused | retired => exact (List.append_nil _).symm
  | unregistered => rfl

theorem Advances.warnings_eq {w after : Watcher} {moves : List Move} (h : Advances w moves after) :
    after.warnings = w.warnings ++ moves.filterMap Move.warning? := by
  induction h with
  | refl => exact (List.append_nil _).symm
  | @cons _ _ _ move moves step _ ih =>
      rw [ih, step.warnings_eq, List.append_assoc, List.filterMap_cons]
      cases move.warning? <;> rfl

theorem Polled.notices {w : Watcher} {result : Watcher × List Move} (h : Polled w result) :
    result.1.notices.Perm w.notices := by
  cases h with
  | returned path | waits path => exact path.notices

theorem Polled.warnings_eq {w : Watcher} {result : Watcher × List Move} (h : Polled w result) :
    result.1.warnings = w.warnings ++ result.2.filterMap Move.warning? := by
  cases h with
  | returned path | waits path => exact path.warnings_eq

/-- Until the close, the listeners that are registered and those that were warned about are the
listeners that ever subscribed. -/
def Accounted (w : Watcher) : Prop :=
  w.closed = false → w.notices.Perm ((List.range w.nextIndex).map .listenerDropped)

section Happens

variable {w after : Watcher} {action : Action} {outcome : Outcome}

theorem Happens.accounted (happens : Happens w action after outcome) (h : w.Accounted) :
    after.Accounted := by
  cases happens with
  | unavailable | refused | uncollected | closedAgain | collected | nothing | handle
  | abandoned => exact h
  | late closed =>
      intro opened
      exact absurd (opened.symm.trans closed) Bool.noConfusion
  | closed => exact nofun
  | registered =>
      intro opened
      -- The new listener stands behind the registered ones and in front of the warnings.
      have last : ((w.subscribers ++ [w.nextIndex]).map Warning.listenerDropped ++ w.warnings).Perm
          (w.notices ++ [.listenerDropped w.nextIndex]) := by
        rw [List.map_append, notices, List.append_assoc, List.append_assoc]
        exact List.perm_append_comm.append_left _
      have numbers : (List.range (w.nextIndex + 1)).map Warning.listenerDropped =
          (List.range w.nextIndex).map .listenerDropped ++ [.listenerDropped w.nextIndex] := by
        rw [List.range_succ, List.map_append, List.map_singleton]
      exact numbers ▸ last.trans ((h opened).append_right _)
  | polled waiting poll =>
      intro opened
      rw [poll.frame.nextIndex]
      exact poll.notices.trans (h (poll.frame.closed ▸ opened))
  | served action =>
      obtain ⟨_, _, same, _⟩ := w.serve_frame action
      rw [same]
      exact h

/-- Only the moves of a publish bring warnings about. -/
theorem Happens.warnings_eq (happens : Happens w action after outcome) :
    after.warnings = w.warnings ++ outcome.moves.filterMap Move.warning? := by
  cases happens with
  | polled waiting poll => exact poll.warnings_eq
  | served action =>
      obtain ⟨_, _, same, _⟩ := w.serve_frame action
      rw [same]
      exact (List.append_nil _).symm
  | unavailable | refused | late | registered | uncollected | collected | nothing | closedAgain
  | closed | handle | abandoned => exact (List.append_nil _).symm

/-- A publish that returns leaves only those registered who listen. -/
theorem Happens.settled {moves : List Move}
    (happens : Happens w action after (.published moves true)) (waiting : w.pending ≠ []) :
    after.Settled := by
  generalize returned : Outcome.published moves true = outcome at happens
  cases happens with
  | nothing empty => exact absurd empty waiting
  | polled _ poll =>
      cases poll with
      | returned path empty start settled => exact settled
      | waits => cases returned
  | _ => cases returned

/-- After the close, warnings and numbers stay as they are. -/
theorem Happens.frozen (happens : Happens w action after outcome) (ok : w.Orderly)
    (closed : w.closed = true) :
    after.closed = true ∧ after.warnings = w.warnings ∧ after.nextIndex = w.nextIndex := by
  cases happens with
  | unavailable | refused | late | uncollected | collected | nothing | closedAgain | handle
  | abandoned => exact ⟨closed, rfl, rfl⟩
  | registered opened => exact absurd (opened.symm.trans closed) Bool.noConfusion
  | closed opened => exact absurd (opened.symm.trans closed) Bool.noConfusion
  | @polled _ result waiting poll =>
      have still := poll.frame.closed.trans closed
      -- Nobody is registered, so the warnings are all there is of the notices.
      have same := poll.notices.length_eq
      rw [notices, notices, (poll.sound ok).orderly.vacant still, ok.vacant closed] at same
      have grown := poll.warnings_eq
      have none : result.2.filterMap Move.warning? = [] := by
        apply List.eq_nil_of_length_eq_zero
        have lengths := congrArg List.length grown
        simp only [List.map_nil, List.nil_append, List.length_append] at same lengths
        omega
      rw [none, List.append_nil] at grown
      exact ⟨still, grown, poll.frame.nextIndex⟩
  | served action =>
      obtain ⟨_, _, same, _⟩ := w.serve_frame action
      rw [same]
      exact ⟨closed, rfl, rfl⟩

end Happens

namespace Accounted

variable {w : Watcher}

/-- The numbers that were given out. -/
theorem indices (h : w.Accounted) (opened : w.closed = false) :
    (w.subscribers ++ w.warnings.map Warning.listener).Perm (List.range w.nextIndex) := by
  have back (numbers : List Nat) :
      (numbers.map Warning.listenerDropped).map Warning.listener = numbers := by
    rw [List.map_map]
    exact List.map_id numbers
  have perm := (h opened).map Warning.listener
  rwa [notices, List.map_append, back, back] at perm

/-- Where only those are registered who listen, each of the others was warned about once. -/
theorem count_eq_one (h : w.Accounted) (opened : w.closed = false) (settled : w.Settled)
    {listener : Nat} (known : listener < w.nextIndex) (gone : w.isListening listener = false) :
    (w.warnings.map Warning.listener).count listener = 1 := by
  have unregistered : listener ∉ w.subscribers := by
    intro member
    exact absurd ((settled listener member).symm.trans gone) Bool.noConfusion
  have total := (h.indices opened).count_eq listener
  rwa [List.count_append, List.count_eq_zero.mpr unregistered, Nat.zero_add,
    List.count_eq_one_of_mem List.nodup_range (List.mem_range.mpr known)] at total

end Accounted

theorem accounted_run (plan : Plan) (actions : List Action) :
    ((create plan).run actions).1.Accounted :=
  run_invariant (fun w action h => (happens_act w action).accounted h) (fun _ => .refl _) actions

/-- Each warning is logged when it is recorded, by induction on the actions. -/
theorem warnings_run (actions : List Action) :
    ∀ w : Watcher, (w.run actions).1.warnings.map LogEntry.warned =
      w.warnings.map .warned ++ (w.logs actions).filter (·.isWarning) := by
  induction actions with
  | nil =>
      intro w
      exact (List.append_nil _).symm
  | cons action rest ih =>
      intro w
      rw [run_cons, ih, (happens_act w action).warnings_eq, List.map_append, logs_cons,
        List.filter_append, warnings_logged, List.append_assoc]

/-- What the close has ended stays so, by induction on the actions. -/
theorem frozen_run {w : Watcher} (sound : w.Sound) (closed : w.closed = true)
    (later : List Action) :
    (w.run later).1.warnings = w.warnings ∧ (w.run later).1.nextIndex = w.nextIndex := by
  have kept := run_invariant
    (P := fun after => after.Sound ∧ after.closed = true ∧ after.warnings = w.warnings ∧
      after.nextIndex = w.nextIndex)
    (fun after action ⟨sound, closed, warnings, nextIndex⟩ => by
      have happens := happens_act after action
      obtain ⟨still, same, numbers⟩ := happens.frozen sound.orderly closed
      exact ⟨happens.sound sound, still, same.trans warnings, numbers.trans nextIndex⟩)
    ⟨sound, closed, rfl, rfl⟩ later
  exact kept.2.2

/-- A publish returns in its first poll or when it is resumed. In both cases it was called with
something in the buffer, and that is still there. -/
theorem waiting_of_returned {w : Watcher} (sound : w.Sound) {action : Action} {moves : List Move}
    (called : action = .resume ∨ action = .owner .publish ∧ w.pending ≠ [])
    (returned : (w.act action).result = .published moves true) : w.pending ≠ [] := by
  obtain rfl | ⟨_, waiting⟩ := called
  · apply sound.waiting
    rw [act] at returned
    split at returned
    · assumption
    · cases returned
  · exact waiting

/-- After every run without a close, the numbers of the listeners that are registered and of those
that were warned about are together the numbers that were given out, each of them once, and the
registered ones are in the order of their registration. Whoever listens is registered. When a
publish returns that had something to publish, whoever is registered listens, and each of the
others was warned about exactly once.

The warnings in the log are the recorded ones, in the same order. After the close neither the
warnings nor the numbers that were given out change. -/
theorem listeners_accounted_for (plan : Plan) (actions : List Action) :
    let w := ((create plan).run actions).1
    (w.closed = false →
      (w.subscribers ++ w.warnings.map Warning.listener).Perm (List.range w.nextIndex) ∧
        (w.subscribers ++ w.warnings.map Warning.listener).Nodup ∧
        w.subscribers.Pairwise (· < ·) ∧
        (∀ listener, w.isListening listener = true → listener ∈ w.subscribers) ∧
        ∀ action moves, action = .resume ∨ action = .owner .publish ∧ w.pending ≠ [] →
          (w.act action).result = .published moves true →
            let after := (w.act action).watcher
            (∀ listener ∈ after.subscribers, after.isListening listener = true) ∧
              ∀ listener < after.nextIndex, after.isListening listener = false →
                (after.warnings.map Warning.listener).count listener = 1) ∧
      ((create plan).logs actions).filter (·.isWarning) = w.warnings.map .warned ∧
      (w.closed = true → ∀ later, (w.run later).1.warnings = w.warnings ∧
        (w.run later).1.nextIndex = w.nextIndex) := by
  intro w
  have sound := sound_run plan actions
  have accounted := accounted_run plan actions
  refine ⟨?_, (warnings_run actions (create plan)).symm, frozen_run sound⟩
  intro opened
  have indices := accounted.indices opened
  refine ⟨indices, indices.nodup_iff.mpr List.nodup_range, sound.orderly.ascending,
    sound.orderly.listening opened, ?_⟩
  intro action moves called returned after
  have happens := happens_act w action
  have counted := happens.accounted accounted
  rw [returned] at happens
  have settled := happens.settled (waiting_of_returned sound called returned)
  have still : after.closed = false := happens.published.1.trans opened
  refine ⟨settled, ?_⟩
  intro listener known gone
  exact counted.count_eq_one still settled known gone

/-- Four listeners, of whom three go: one before anything is published, one while a publish waits
that is given up, and one while the next publish waits. -/
def goneInTurn : List Action :=
  [.owner .subscribe, .owner .subscribe, .owner .subscribe, .owner (.collect (.sample 0)),
    .reader (.dropReading 1), .owner .publish, .owner (.collect (.sample 1)), .owner .publish,
    .reader (.dropReading 2), .abandon, .owner .subscribe, .owner (.collect (.sample 2)),
    .reader (.receive 0), .owner .publish, .reader (.closeReading 0), .reader (.receive 3)]

theorem listeners_accounted_for_goneInTurn :
    let w := ((create .sample).run goneInTurn).1
    let after := (w.act .resume).watcher
    let later := ((create .sample).run (goneInTurn ++ [.abandon, .owner .close])).1
    (w.closed = false ∧ w.subscribers = [0, 3] ∧
        w.warnings = [.listenerDropped 1, .listenerDropped 2]) ∧
      (w.subscribers ++ w.warnings.map Warning.listener).Perm (List.range 4) ∧
      (w.act .resume).result =
        .published [.refused 0, .accepted 3, .retired, .unregistered 0] true ∧
      (∀ listener ∈ after.subscribers, after.isListening listener = true) ∧
      (after.warnings.map Warning.listener).count 0 = 1 ∧
      later.closed = true ∧
      (later.run [.owner .subscribe, .owner .publish]).1.warnings = later.warnings := by
  intro w after later
  have opened : w.closed = false := by decide +kernel
  have closed : later.closed = true := by decide +kernel
  have returned : (w.act .resume).result =
      .published [.refused 0, .accepted 3, .retired, .unregistered 0] true := by rfl
  obtain ⟨indices, _, _, _, published⟩ :=
    (listeners_accounted_for .sample goneInTurn).1 opened
  obtain ⟨settled, once⟩ := published .resume _ (.inl rfl) returned
  obtain ⟨_, _, frozen⟩ :=
    listeners_accounted_for .sample (goneInTurn ++ [.abandon, .owner .close])
  exact ⟨by decide +kernel, indices, returned, settled,
    once 0 (by decide +kernel) (by decide +kernel), closed, (frozen closed _).1⟩

end Watcher

end RolloutWatch
