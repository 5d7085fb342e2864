import RolloutWatch.Proofs.Gate.Waiting
import RolloutWatch.Proofs.Watcher.Collecting
import RolloutWatch.Session

/-!
# The gate of a session

Whatever is asked of a session, its gate has at any time been brought about by signals,
handles and waits, and by the loss of the watcher. What holds of gates after anything that
can be done with them therefore holds in every session.
-/

namespace RolloutWatch

/-- Something that can be done with a new gate leads to this one. -/
def Gate.Reached (gate : Gate) : Prop :=
  ∃ past, (({} : Gate).run past).1 = gate

theorem Gate.Reached.act {gate : Gate} (h : gate.Reached) (action : GateAction) :
    (gate.act action).1.Reached := by
  obtain ⟨past, rfl⟩ := h
  exact ⟨past ++ [action], congrArg Prod.fst (run_snoc ..)⟩

namespace Watcher

variable {w : Watcher}

theorem gate_publish (w : Watcher) : w.publish.1.gate = w.gate := by
  by_cases empty : w.pending = []
  · rw [publish, if_pos (List.isEmpty_iff.mpr empty)]
  · exact (polled_publish empty).frame.gate

theorem gate_resume (w : Watcher) : w.resume.1.gate = w.gate := by
  by_cases publishing : w.publishing = true
  · by_cases empty : w.pending = []
    · rw [resume, if_pos publishing, empty]
      rfl
    · exact (polled_resume empty publishing).frame.gate
  · rw [resume, if_neg publishing]

theorem gate_subscribe (w : Watcher) : w.subscribe.watcher.gate = w.gate := by
  unfold subscribe
  split
  · rfl
  · split <;> rfl

theorem gate_close (w : Watcher) : w.close.watcher.gate = w.gate := by
  unfold close
  split <;> rfl

theorem reached_collect (h : w.gate.Reached) (reply : Reply) :
    (w.collect reply).watcher.gate.Reached := by
  cases reply with
  | unanswered | failed => exact h
  | described description =>
      rw [collect]
      split
      · exact h
      · next deployments _ =>
          rw [gate_record]
          split
          · exact h.act .signal
          · exact h

theorem reached_serve (h : w.gate.Reached) (action : ReaderAction) :
    (w.serve action).1.gate.Reached := by
  cases action with
  | receive | drain | closeReading | dropReading | isDone | wait => exact h
  | cloneHandle handle => exact h.act (.cloneHandle handle)
  | startWait handle => exact h.act (.startWait handle)
  | pollWait wait => exact h.act (.pollWait wait)

theorem reached_serveAll (turn : List ReaderAction) :
    ∀ {w : Watcher}, w.gate.Reached → (w.serveAll turn).1.gate.Reached := by
  induction turn with
  | nil => exact id
  | cons action rest ih => exact fun h => ih (reached_serve h action)

theorem reached_attend (turns : List (List ReaderAction)) :
    ∀ {w : Watcher}, w.gate.Reached → (w.attend turns).watcher.gate.Reached := by
  induction turns with
  | nil => exact id
  | cons turn rest ih =>
      intro w h
      rw [attend]
      split
      · apply ih
        rw [gate_resume]
        exact reached_serveAll turn h
      · exact h

end Watcher

namespace Session

variable {s : Session}

theorem reached_answer (h : s.watcher.gate.Reached) (request : Request) :
    (s.answer request).session.watcher.gate.Reached := by
  cases request with
  | subscribe => exact (Watcher.gate_subscribe s.watcher).symm ▸ h
  | collect reply => exact Watcher.reached_collect h _
  | publish turns =>
      have begun : s.watcher.publish.1.gate.Reached := (Watcher.gate_publish s.watcher).symm ▸ h
      exact Watcher.reached_attend turns begun
  | close => exact (Watcher.gate_close s.watcher).symm ▸ h
  | takeHandle => exact h.act .takeHandle
  | dropWatcher => exact h.act .dropOwner
  | reader action => exact Watcher.reached_serve h action
  | pending | knows | warnings | target | calls => exact h

/-- The gate of a session has been reached at any time. -/
theorem reached_run (requests : List Request) :
    ∀ {s : Session}, s.watcher.gate.Reached →
      ∀ turn ∈ s.run requests, turn.session.watcher.gate.Reached := by
  induction requests with
  | nil =>
      intro s _ turn member
      cases member
  | cons request rest ih =>
      intro s h turn member
      have next : (s.step request).session.watcher.gate.Reached := by
        unfold step
        split
        · exact reached_answer h _
        · split
          · exact h
          · exact reached_answer h _
      obtain rfl | later := List.mem_cons.mp member
      · exact next
      · exact ih next turn later

/-- So it is from the start. -/
theorem reached_start (plan : Plan) (now : Instant) (requests : List Request) :
    ∀ turn ∈ (start plan now).run requests, turn.session.watcher.gate.Reached :=
  reached_run requests ⟨[], rfl⟩

end Session

end RolloutWatch
