import RolloutWatch.Proofs.Watcher.Alike
import RolloutWatch.Proofs.Watcher.History

/-!
# Cancelling a publish

A publish that waits can be given up and begun anew instead of being resumed. The
watchers that come of the two ways need not have the same subscribers: a publish that
begins at the first subscriber unregisters at once those who are gone, and one that is
resumed passes over them first. They are alike all the same, so that the two publishes
wait and return together. When they return, only those who listen are registered, and
the subscribers are the same again.
-/

namespace RolloutWatch

/-- What can happen while a publish waits. -/
inductive PublishTurn where
  /-- The publish is polled, or it is dropped and a new one is polled in its place. -/
  | poll (dropped : Bool)
  | reader (action : ReaderAction)
deriving DecidableEq, Repr

namespace PublishTurn

/-- The actions of a turn. -/
def actions : PublishTurn → List Action
  | poll false => [.resume]
  | poll true => [.abandon, .owner .publish]
  | reader action => [.reader action]

/-- The same turn with a publish that is never dropped. -/
def patient : PublishTurn → PublishTurn
  | poll _ => poll false
  | reader action => reader action

end PublishTurn

/-- What a reader gets in an outcome. -/
def Outcome.answer? : Outcome → Option ReaderAnswer
  | reader answer => some answer
  | _ => none

namespace Watcher

/-- What readers get in some turns. -/
def answers (w : Watcher) (turns : List PublishTurn) : List ReaderAnswer :=
  (w.run (turns.flatMap PublishTurn.actions)).2.filterMap (·.result.answer?)

/-- The watcher behind some turns. -/
def afterTurns (w : Watcher) (turns : List PublishTurn) : Watcher :=
  (w.run (turns.flatMap PublishTurn.actions)).1

theorem afterTurns_cons (w : Watcher) (turn : PublishTurn) (turns : List PublishTurn) :
    w.afterTurns (turn :: turns) = (w.afterTurns [turn]).afterTurns turns := by
  simp [afterTurns, run_append]

theorem answers_cons (w : Watcher) (turn : PublishTurn) (turns : List PublishTurn) :
    w.answers (turn :: turns) = w.answers [turn] ++ (w.afterTurns [turn]).answers turns := by
  simp [answers, afterTurns, run_append]

/-- Two watchers after the same turns, but for the publishes that were dropped. -/
structure Lockstep (a b : Watcher) : Prop where
  alike : Alike a b
  publishing : a.publishing = b.publishing
  waiting : a.publishing = true → a.pending ≠ []
  resting : a.publishing = false → a.pending = [] ∧ a.subscribers = b.subscribers

/-- A publish that waits has something to publish. One that returned has published everything to
all who are still registered. -/
theorem Polled.waiting_or_resting {w : Watcher} {result : Watcher × List Move}
    (h : Polled w result) :
    (result.1.publishing = true → result.1.pending ≠ []) ∧
      (result.1.publishing = false → result.1.pending = [] ∧
        attentive result.1.mailboxes result.1.subscribers = result.1.subscribers) := by
  cases h with
  | returned path empty start settled =>
      exact ⟨nofun, fun _ => ⟨empty, List.filter_eq_self.mpr settled⟩⟩
  | waits path blocked => exact ⟨fun _ => blocked.waiting, nofun⟩

theorem Lockstep.of_polled {w other : Watcher} {left right : Watcher × List Move}
    (here : Polled w left) (there : Polled other right) (alike : Alike left.1 right.1)
    (publishing : left.1.publishing = right.1.publishing) : Lockstep left.1 right.1 := by
  obtain ⟨waiting, resting⟩ := here.waiting_or_resting
  refine ⟨alike, publishing, waiting, ?_⟩
  intro rest
  obtain ⟨empty, same⟩ := resting rest
  obtain ⟨_, others⟩ := there.waiting_or_resting.2 (publishing ▸ rest)
  refine ⟨empty, ?_⟩
  rw [← same, ← others, alike.subscribers]

/-- Whether the publish is dropped or not, a poll of it is alike. -/
theorem afterTurns_poll {w : Watcher} (publishing : w.publishing = true) (waiting : w.pending ≠ [])
    (dropped : Bool) :
    ∃ start result, w.afterTurns [.poll dropped] = result.1 ∧ w.answers [.poll dropped] = [] ∧
      Polled start result ∧ Alike (w.publishFrom w.pending).1 result.1 ∧
      (w.publishFrom w.pending).1.publishing = result.1.publishing := by
  cases dropped with
  | false =>
      have acted : w.act .resume = published (w.publishFrom w.pending) := by
        rw [act, if_pos publishing, resume, if_pos publishing]
      have polled := polled_resume waiting publishing
      rw [resume, if_pos publishing] at polled
      refine ⟨w, w.publishFrom w.pending, ?_, ?_, polled, .refl _, rfl⟩
      · show (w.act .resume).watcher = _
        rw [acted]
        rfl
      · show [w.act .resume].filterMap _ = _
        rw [acted]
        rfl
  | true =>
      have acted : w.act .abandon = { watcher := w.abandon, result := .abandoned } := by
        rw [act, if_pos publishing]
      have unseen : Alike w w.abandon := (Alike.of_publishing w false).symm
      obtain ⟨alike, same⟩ := Alike.publishFrom w.pending unseen rfl
      obtain ⟨alike', same'⟩ := Alike.publish (w := w.abandon) waiting
      refine ⟨w.abandon, w.abandon.publish, ?_, ?_, polled_publish waiting, alike.trans alike',
        same.trans same'⟩
      · show ((w.act .abandon).watcher.act (.owner .publish)).watcher = _
        rw [acted]
        rfl
      · show [w.act .abandon, (w.act .abandon).watcher.act (.owner .publish)].filterMap _ = _
        rw [acted]
        rfl

/-- Where no publish waits and nothing is in the buffer, polls change nothing. -/
theorem afterTurns_poll_of_resting {w : Watcher} (idle : w.publishing = false)
    (empty : w.pending = []) (dropped : Bool) :
    w.afterTurns [.poll dropped] = w ∧ w.answers [.poll dropped] = [] := by
  have unavailable : ∀ action, action = .resume ∨ action = .abandon →
      w.act action = { watcher := w, result := .unavailable } := by
    rintro action (rfl | rfl) <;> rw [act, idle] <;> rfl
  have nothing : w.publish = (w, []) := by rw [publish, empty]; rfl
  have acted : w.act (.owner .publish) = published (w, []) := by
    rw [act, idle, ← nothing]
    rfl
  cases dropped with
  | false =>
      constructor
      · show (w.act .resume).watcher = w
        rw [unavailable .resume (.inl rfl)]
      · show [w.act .resume].filterMap _ = _
        rw [unavailable .resume (.inl rfl)]
        rfl
  | true =>
      constructor
      · show ((w.act .abandon).watcher.act (.owner .publish)).watcher = w
        rw [unavailable .abandon (.inr rfl), acted]
        rfl
      · show [w.act .abandon, (w.act .abandon).watcher.act (.owner .publish)].filterMap _ = _
        rw [unavailable .abandon (.inr rfl), acted]
        rfl

/-- One turn keeps watchers in lockstep, and readers get the same. -/
theorem Lockstep.turn {a b : Watcher} (h : Lockstep a b) (turn : PublishTurn) :
    Lockstep (a.afterTurns [turn.patient]) (b.afterTurns [turn]) ∧
      a.answers [turn.patient] = b.answers [turn] := by
  cases turn with
  | poll dropped =>
      cases publishing : a.publishing with
      | true =>
          have waiting := h.waiting publishing
          obtain ⟨_, left, here, silent, polled, alike, same⟩ :=
            afterTurns_poll publishing waiting false
          obtain ⟨_, right, there, silent', polled', alike', same'⟩ :=
            afterTurns_poll (h.publishing ▸ publishing) (h.alike.pending ▸ waiting) dropped
          obtain ⟨both, together⟩ := h.alike.publishFrom b.pending h.alike.pending
          rw [h.alike.pending] at alike same
          refine ⟨?_, silent.trans silent'.symm⟩
          show Lockstep (a.afterTurns [.poll false]) _
          rw [here, there]
          exact .of_polled polled polled' (alike.symm.trans (both.trans alike'))
            (same.symm.trans (together.trans same'))
      | false =>
          obtain ⟨empty, _⟩ := h.resting publishing
          obtain ⟨here, silent⟩ := afterTurns_poll_of_resting publishing empty false
          obtain ⟨there, silent'⟩ := afterTurns_poll_of_resting (h.publishing ▸ publishing)
            (h.alike.pending ▸ empty) dropped
          refine ⟨?_, silent.trans silent'.symm⟩
          show Lockstep (a.afterTurns [.poll false]) _
          rw [here, there]
          exact h
  | reader action =>
      have alike := h.alike.serve action
      obtain ⟨same, _⟩ := h.alike.serve_congr action
      obtain ⟨_, _, left, _⟩ := a.serve_frame action
      obtain ⟨_, _, right, _⟩ := b.serve_frame action
      refine ⟨?_, congrArg (fun answer => [answer]) same⟩
      show Lockstep (a.serve action).1 (b.serve action).1
      rw [left, right] at alike ⊢
      exact ⟨alike, h.publishing, h.waiting, h.resting⟩

/-- Turns keep watchers in lockstep, by induction on them. -/
theorem Lockstep.turns (turns : List PublishTurn) :
    ∀ {a b : Watcher}, Lockstep a b →
      Lockstep (a.afterTurns (turns.map .patient)) (b.afterTurns turns) ∧
        a.answers (turns.map .patient) = b.answers turns := by
  induction turns with
  | nil =>
      intro a b h
      exact ⟨h, rfl⟩
  | cons turn turns ih =>
      intro a b h
      obtain ⟨step, same⟩ := h.turn turn
      obtain ⟨later, rest⟩ := ih step
      rw [List.map_cons, afterTurns_cons, afterTurns_cons b, answers_cons, answers_cons b, same,
        rest]
      exact ⟨later, rfl⟩

/-- In every reachable state in which a publish waits, and for all turns of polls and readers from
there on, it makes no difference to the buffer and the mailboxes which polls drop the publish and
poll a new one in its place. Readers get the same, and the one publish waits exactly as long as
the other. When they have returned, the subscribers are the same, and the warnings are the same up
to their order. What begins these turns is a list of turns too, so all this holds after each of
them. -/
theorem dropped_publish_is_invisible (plan : Plan) (actions : List Action)
    (turns : List PublishTurn) (waiting : ((create plan).run actions).1.publishing = true) :
    let w := ((create plan).run actions).1
    let patient := w.afterTurns (turns.map .patient)
    let other := w.afterTurns turns
    patient.pending = other.pending ∧ patient.mailboxes = other.mailboxes ∧
      w.answers (turns.map .patient) = w.answers turns ∧
      patient.publishing = other.publishing ∧
      (patient.publishing = false →
        patient.subscribers = other.subscribers ∧ patient.warnings.Perm other.warnings) := by
  intro w patient other
  have start : Lockstep w w := by
    refine ⟨.refl w, rfl, (sound_run plan actions).waiting, ?_⟩
    intro idle
    exact absurd (waiting.symm.trans idle) Bool.noConfusion
  obtain ⟨h, same⟩ := start.turns turns
  refine ⟨h.alike.pending, h.alike.mailboxes, same, h.publishing, ?_⟩
  intro returned
  obtain ⟨_, subscribers⟩ := h.resting returned
  have notices := h.alike.notices
  rw [Watcher.notices, Watcher.notices, subscribers] at notices
  exact ⟨subscribers, (List.perm_append_left_iff _).mp notices⟩

/-- A publish that waits for the first of three listeners. The second is gone when the publish is
dropped, and the first goes later. -/
def waitingForFirst : List Action :=
  [.owner .subscribe, .owner .subscribe, .owner .subscribe, .owner (.collect (.sample 0)),
    .owner .publish, .owner (.collect (.sample 1)), .owner .publish]

def goneOneByOne : List PublishTurn :=
  [.reader (.dropReading 1), .poll true, .reader (.dropReading 0), .reader (.receive 2),
    .poll false]

theorem dropped_publish_is_invisible_goneOneByOne :
    let w := ((create .sample).run waitingForFirst).1
    let patient := w.afterTurns (goneOneByOne.map .patient)
    let other := w.afterTurns goneOneByOne
    w.publishing = true ∧
      (patient.warnings = [.listenerDropped 0, .listenerDropped 1] ∧
        other.warnings = [.listenerDropped 1, .listenerDropped 0]) ∧
      (patient.mailboxes = other.mailboxes ∧
        w.answers (goneOneByOne.map .patient) = w.answers goneOneByOne) ∧
      patient.publishing = false ∧ patient.subscribers = other.subscribers ∧
      patient.warnings.Perm other.warnings := by
  have waiting : ((create .sample).run waitingForFirst).1.publishing = true := by decide +kernel
  obtain ⟨_, mailboxes, answers, _, returned⟩ :=
    dropped_publish_is_invisible .sample waitingForFirst goneOneByOne waiting
  have rest : (((create .sample).run waitingForFirst).1.afterTurns
      (goneOneByOne.map .patient)).publishing = false := by decide +kernel
  exact ⟨waiting, by decide +kernel, ⟨mailboxes, answers⟩, rest, returned rest⟩

end Watcher

end RolloutWatch
