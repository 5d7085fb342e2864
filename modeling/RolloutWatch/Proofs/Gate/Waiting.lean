import Mathlib.Data.List.Induction
import RolloutWatch.Gate

/-!
# Waiting at a gate

Everything that can be done with a gate and its handles, in any order: the owner signals,
gives out handles and goes away, and whoever has a handle clones it and waits. A wait does
nothing before its first poll, so it starts with that poll. It is forgotten after it, or it
is kept and polled again until it ends.

What a poll shows depends on the past alone. The main result says so for every wait that
has not ended, and that of all signals exactly the first counts.
-/

namespace RolloutWatch

/-- One thing that is done with a gate or with a handle of it. -/
inductive GateAction where
  | signal
  | dropOwner
  | takeHandle
  | cloneHandle (handle : Nat)
  /-- Polls a new wait once and forgets it. -/
  | wait (handle : Nat)
  /-- Polls a new wait once and keeps it. -/
  | startWait (handle : Nat)
  | pollWait (wait : Nat)
deriving DecidableEq, Repr

/-- What comes of it. -/
inductive GateAnswer where
  /-- Whether the signal was the first. -/
  | signaled (first : Bool)
  | dropped
  | handle (number : Nat)
  /-- What a wait shows that is not kept. -/
  | waited (status : WaitStatus)
  /-- What the wait with this number shows. -/
  | kept (wait : Nat) (status : WaitStatus)
deriving DecidableEq, Repr

/-- What a wait has shown. -/
def GateAnswer.status? : GateAnswer → Option WaitStatus
  | waited status => some status
  | kept _ status => some status
  | _ => none

namespace Gate

/-- Performs one action. -/
def act (gate : Gate) : GateAction → Gate × GateAnswer
  | .signal =>
    let (after, first) := gate.signal
    (after, .signaled first)
  | .dropOwner => (gate.dropOwner, .dropped)
  | .takeHandle =>
    let (after, number) := gate.giveHandle
    (after, .handle number)
  | .cloneHandle _ =>
    let (after, number) := gate.giveHandle
    (after, .handle number)
  | .wait _ => (gate, .waited gate.waitStatus)
  | .startWait _ =>
    let (after, status) := gate.startWait
    (after, .kept gate.waits.length status)
  | .pollWait wait =>
    let (after, status) := gate.pollWait wait
    (after, .kept wait status)

/-- Performs actions one after the other. There is one answer for each of them. -/
def run (gate : Gate) : List GateAction → Gate × List GateAnswer
  | [] => (gate, [])
  | action :: rest =>
    let (middle, answer) := gate.act action
    let (after, answers) := middle.run rest
    (after, answer :: answers)

theorem run_snoc (gate : Gate) (past : List GateAction) (action : GateAction) :
    gate.run (past ++ [action]) =
      (((gate.run past).1.act action).1,
        (gate.run past).2 ++ [((gate.run past).1.act action).2]) := by
  induction past generalizing gate with
  | nil => rfl
  | cons first rest ih => simp only [List.cons_append, run, ih]

/-- The owner signaled before it went away. -/
def Signaled (past : List GateAction) : Prop :=
  ∃ before after, past = before ++ .signal :: after ∧ .dropOwner ∉ before

theorem signaled_snoc (past : List GateAction) (action : GateAction) :
    Signaled (past ++ [action]) ↔ Signaled past ∨ (action = .signal ∧ .dropOwner ∉ past) := by
  constructor
  · rintro ⟨before, after, same, present⟩
    obtain rfl | ⟨later, last, rfl⟩ := after.eq_nil_or_concat
    · obtain ⟨rfl, last⟩ := List.append_inj' same rfl
      cases last
      exact .inr ⟨rfl, present⟩
    · rw [List.concat_eq_append, ← List.cons_append, ← List.append_assoc] at same
      obtain ⟨rfl, _⟩ := List.append_inj' same rfl
      exact .inl ⟨before, later, rfl, present⟩
  · rintro (⟨before, after, rfl, present⟩ | ⟨rfl, present⟩)
    · exact ⟨before, after ++ [action], by simp, present⟩
    · exact ⟨past, [], rfl, present⟩

theorem Signaled.mem {past : List GateAction} (given : Signaled past) : .signal ∈ past := by
  obtain ⟨before, after, rfl, _⟩ := given
  simp

/-- As long as the owner is there, any signal counts. -/
theorem signaled_of_mem {past : List GateAction} (signal : .signal ∈ past)
    (present : .dropOwner ∉ past) : Signaled past := by
  obtain ⟨before, after, rfl⟩ := List.append_of_mem signal
  exact ⟨before, after, rfl, fun gone => present (List.mem_append_left _ gone)⟩

section Act

variable (gate : Gate) (action : GateAction)

/-- Nothing but a signal signals the gate, and only while the owner is there. -/
theorem signaled_act :
    (gate.act action).1.signaled = true ↔
      gate.signaled = true ∨ (action = .signal ∧ gate.owned = true) := by
  cases action with
  | signal => simp [act]
  | pollWait wait =>
      simp only [act, pollWait]
      split <;> simp
  | dropOwner | takeHandle | cloneHandle | wait | startWait =>
      simp [act, dropOwner, giveHandle, startWait]

theorem owned_act :
    (gate.act action).1.owned = true ↔ gate.owned = true ∧ action ≠ .dropOwner := by
  cases action with
  | signal =>
      simp only [act, signal]
      split <;> simp
  | pollWait wait =>
      simp only [act, pollWait]
      split <;> simp
  | dropOwner | takeHandle | cloneHandle | wait | startWait =>
      simp [act, dropOwner, giveHandle, startWait]

end Act

theorem waitStatus_ne_finished (gate : Gate) : gate.waitStatus ≠ .finished := by
  unfold waitStatus
  split
  · nofun
  · split <;> nofun

/-- The waits that are kept are noted as what they have shown. -/
structure Notes (gate : Gate) (answers : List GateAnswer) : Prop where
  started : ∀ wait, .kept wait .pending ∈ answers → gate.waits[wait]? ≠ none
  ended : ∀ wait, gate.waits[wait]? = some true ↔ ∃ signaled, .kept wait (.ended signaled) ∈ answers

namespace Notes

variable {gate after : Gate} {answers : List GateAnswer}

/-- An answer that shows nothing of a wait that is kept is no matter. -/
theorem append (h : Notes gate answers) {answer : GateAnswer} (waits : after.waits = gate.waits)
    (other : ∀ wait status, answer = .kept wait status → status = .finished) :
    Notes after (answers ++ [answer]) := by
  have member (wait : Nat) (status : WaitStatus) (shown : status ≠ .finished) :
      .kept wait status ∈ answers ++ [answer] ↔ .kept wait status ∈ answers := by
    rw [List.mem_append, List.mem_singleton, or_iff_left]
    exact fun same => shown (other wait status same.symm)
  constructor
  · intro wait pending
    rw [waits]
    exact h.started wait ((member wait .pending (by nofun)).mp pending)
  · intro wait
    rw [waits, h.ended wait]
    exact exists_congr fun signaled => (member wait (.ended signaled) (by nofun)).symm

/-- A wait that has not ended is polled. -/
theorem poll (h : Notes gate answers) {wait : Nat} {status : WaitStatus}
    (shown : status ≠ .finished) (unended : gate.waits[wait]? ≠ some true)
    (here : after.waits[wait]? = some (status != .pending))
    (others : ∀ other ≠ wait, after.waits[other]? = gate.waits[other]?) :
    Notes after (answers ++ [.kept wait status]) := by
  have ends : (status != .pending) = true ↔ ∃ signaled, status = .ended signaled := by
    cases status with
    | finished => exact absurd rfl shown
    | pending | ended => simp
  constructor
  · intro any pending
    obtain rfl | ne := eq_or_ne any wait
    · rw [here]
      nofun
    · rw [others any ne]
      obtain old | new := List.mem_append.mp pending
      · exact h.started any old
      · cases List.mem_singleton.mp new
        exact absurd rfl ne
  · intro any
    obtain rfl | ne := eq_or_ne any wait
    · have unshown : ∀ signaled, .kept any (.ended signaled) ∉ answers :=
        fun signaled old => unended ((h.ended any).mpr ⟨signaled, old⟩)
      simp [here, unshown, ends, eq_comm]
    · simp [others any ne, h.ended any, ne]

theorem act (h : Notes gate answers) (action : GateAction) :
    Notes (gate.act action).1 (answers ++ [(gate.act action).2]) := by
  cases action with
  | signal =>
      refine h.append ?_ nofun
      simp only [Gate.act, signal]
      split <;> rfl
  | dropOwner | takeHandle | cloneHandle | wait => exact h.append rfl nofun
  | startWait handle =>
      refine h.poll gate.waitStatus_ne_finished ?_ ?_ fun other ne => ?_
      · simp
      · simp [Gate.act, startWait]
      · simp only [Gate.act, startWait]
        obtain lt | gt := Nat.lt_or_gt_of_ne ne
        · exact List.getElem?_append_left lt
        · rw [List.getElem?_eq_none (Nat.le_of_lt gt), List.getElem?_eq_none]
          rw [List.length_append]
          exact gt
  | pollWait wait =>
      simp only [Gate.act, pollWait]
      split
      · refine h.append rfl ?_
        rintro _ _ ⟨⟩
        rfl
      · next unended =>
          have noted : gate.waits[wait]? = some false := by
            cases found : gate.waits[wait]? with
            | none => simp [found] at unended
            | some ended => simpa [found] using unended
          refine h.poll gate.waitStatus_ne_finished ?_ ?_ fun other ne => ?_
          · simp [noted]
          · rw [List.getElem?_set_self (List.getElem?_eq_some_iff.mp noted).1]
          · exact List.getElem?_set_ne ne.symm

end Notes

/-- A signal is told to be the first if the owner is there and the gate is not signaled. -/
theorem act_eq_first_iff (gate : Gate) (action : GateAction) :
    (gate.act action).2 = .signaled true ↔
      action = .signal ∧ gate.owned = true ∧ gate.signaled = false := by
  cases action <;> simp [act]

section Run

variable (past : List GateAction)

theorem owned_run : (({} : Gate).run past).1.owned = true ↔ .dropOwner ∉ past := by
  induction past using List.reverseRecOn with
  | nil => simp [run]
  | append_singleton past action ih =>
      rw [run_snoc, owned_act, ih, List.mem_append, List.mem_singleton, not_or]
      exact and_congr_right' ne_comm

theorem signaled_run : (({} : Gate).run past).1.signaled = true ↔ Signaled past := by
  induction past using List.reverseRecOn with
  | nil => simp [run, Signaled]
  | append_singleton past action ih =>
      rw [run_snoc, signaled_act, ih, owned_run, signaled_snoc]

theorem notes_run : Notes (({} : Gate).run past).1 (({} : Gate).run past).2 := by
  induction past using List.reverseRecOn with
  | nil => exact ⟨nofun, by simp [run]⟩
  | append_singleton past action ih =>
      rw [run_snoc]
      exact ih.act action

/-- Of all signals one is told to be the first, if there is any. -/
theorem count_first_run :
    (({} : Gate).run past).2.count (.signaled true) =
      if (({} : Gate).run past).1.signaled then 1 else 0 := by
  induction past using List.reverseRecOn with
  | nil => rfl
  | append_singleton past action ih =>
      simp only [run_snoc, List.count_append, List.count_singleton, ih, beq_iff_eq,
        act_eq_first_iff, signaled_act]
      cases (({} : Gate).run past).1.signaled <;> simp

end Run

/-- The action polls a wait that has not ended: a new one, or one that is kept, was pending when it
was started, and has not ended since. -/
inductive PollsOpen (answers : List GateAnswer) : GateAction → Prop where
  | wait (handle : Nat) : PollsOpen answers (.wait handle)
  | startWait (handle : Nat) : PollsOpen answers (.startWait handle)
  | pollWait {wait : Nat} (started : .kept wait .pending ∈ answers)
      (unended : ∀ signaled, .kept wait (.ended signaled) ∉ answers) :
      PollsOpen answers (.pollWait wait)

theorem Notes.status?_act {gate : Gate} {answers : List GateAnswer} (h : Notes gate answers)
    {action : GateAction} (polls : PollsOpen answers action) :
    (gate.act action).2.status? = some gate.waitStatus := by
  cases polls with
  | wait | startWait => rfl
  | @pollWait wait started unended =>
      have running : gate.waits[wait]? = some false := by
        cases found : gate.waits[wait]? with
        | none => exact absurd found (h.started wait started)
        | some ended =>
            cases ended with
            | false => rfl
            | true =>
                obtain ⟨signaled, shown⟩ := (h.ended wait).mp found
                exact absurd shown (unended signaled)
      rw [Gate.act, pollWait, running]
      rfl

theorem Notes.act_pollWait_of_ended {gate : Gate} {answers : List GateAnswer}
    (h : Notes gate answers) {wait : Nat} {signaled : Bool}
    (shown : .kept wait (.ended signaled) ∈ answers) :
    (gate.act (.pollWait wait)).2 = .kept wait .finished := by
  have ended := (h.ended wait).mpr ⟨signaled, shown⟩
  rw [Gate.act, pollWait, ended]
  rfl

/-- Whatever has been done with a gate, in any order, the poll of a wait that has not ended shows
nothing but the past. The wait succeeds if the gate has been signaled, also if the owner went away
after that or there was no handle then. It ends without success if the owner went away and had
never signaled. Else it is pending. A wait that has ended shows nothing any more. A signal is told
to be the first if there was none before, so that in all one of them is. -/
theorem polls_show_the_past (past : List GateAction) :
    let gate := (({} : Gate).run past).1
    let answers := (({} : Gate).run past).2
    (∀ action, PollsOpen answers action →
      ∃ status, (gate.act action).2.status? = some status ∧
        (status = .ended true ↔ Signaled past) ∧
        (status = .ended false ↔ .dropOwner ∈ past ∧ ¬Signaled past) ∧
        (status = .pending ↔ .dropOwner ∉ past ∧ ¬Signaled past)) ∧
    (∀ wait signaled, .kept wait (.ended signaled) ∈ answers →
      (gate.act (.pollWait wait)).2 = .kept wait .finished) ∧
    ((gate.act .signal).2 = .signaled true ↔ .dropOwner ∉ past ∧ .signal ∉ past) ∧
    (Signaled past → answers.count (.signaled true) = 1) ∧
    (¬Signaled past → .signaled true ∉ answers) := by
  intro gate answers
  have signaled : gate.signaled = true ↔ Signaled past := signaled_run past
  have unsignaled : gate.signaled = false ↔ ¬Signaled past := by
    rw [← signaled, Bool.not_eq_true]
  have owned : gate.owned = true ↔ .dropOwner ∉ past := owned_run past
  have unowned : gate.owned = false ↔ .dropOwner ∈ past := by
    rw [← not_not (a := .dropOwner ∈ past), ← owned, Bool.not_eq_true]
  have first : answers.count (.signaled true) = if gate.signaled then 1 else 0 :=
    count_first_run past
  refine ⟨fun action polls => ⟨gate.waitStatus, (notes_run past).status?_act polls, ?_, ?_, ?_⟩,
    fun wait ended shown => (notes_run past).act_pollWait_of_ended shown, ?_, ?_, ?_⟩
  · rw [waitStatus_eq_ended_iff, ← signaled]
    simp
  · rw [waitStatus_eq_ended_iff, unsignaled, unowned, and_comm]
    simp
  · rw [waitStatus_eq_pending_iff, unsignaled, owned, and_comm]
  · rw [act_eq_first_iff, owned, unsignaled]
    constructor
    · rintro ⟨_, present, never⟩
      exact ⟨present, fun signal => never (signaled_of_mem signal present)⟩
    · rintro ⟨present, never⟩
      exact ⟨rfl, present, fun given => never given.mem⟩
  · intro given
    rw [first, if_pos (signaled.mpr given)]
  · intro never
    rw [← List.count_eq_zero, first, if_neg (signaled.not.mpr never)]

/-- A signal in front of the first handle, shown to a handle that is cloned when the owner is gone;
a wait that is pending until the owner goes away; and one that has ended with a signal. -/
theorem polls_show_the_past_ownerGone :
    let early : List GateAction := [.signal, .takeHandle, .signal, .dropOwner, .cloneHandle 0]
    let never : List GateAction := [.takeHandle, .startWait 0, .dropOwner]
    let late : List GateAction := [.takeHandle, .startWait 0, .signal, .dropOwner, .pollWait 0]
    (Signaled early ∧ (({} : Gate).run early).2.count (.signaled true) = 1 ∧
      ((({} : Gate).run early).1.act (.wait 1)).2.status? = some (.ended true)) ∧
    (PollsOpen (({} : Gate).run never).2 (.pollWait 0) ∧ ¬Signaled never ∧
      .signaled true ∉ (({} : Gate).run never).2 ∧
      ((({} : Gate).run never).1.act (.pollWait 0)).2.status? = some (.ended false)) ∧
    .kept 0 (.ended true) ∈ (({} : Gate).run late).2 ∧
      ((({} : Gate).run late).1.act (.pollWait 0)).2 = .kept 0 .finished := by
  intro early never late
  obtain ⟨shown, _, _, once, _⟩ := polls_show_the_past early
  obtain ⟨shown', _, _, _, none⟩ := polls_show_the_past never
  obtain ⟨_, finished, _⟩ := polls_show_the_past late
  have signaled : Signaled early := ⟨[], _, rfl, by decide⟩
  have unsignaled : ¬Signaled never := fun given => absurd given.mem (by decide)
  have polls : PollsOpen (({} : Gate).run never).2 (.pollWait 0) :=
    .pollWait (by decide) (by decide)
  have ended : .kept 0 (.ended true) ∈ (({} : Gate).run late).2 := by decide
  obtain ⟨status, polled, succeeds, _⟩ := shown (.wait 1) (.wait 1)
  obtain ⟨status', polled', _, fails, _⟩ := shown' (.pollWait 0) polls
  rw [succeeds.mpr signaled] at polled
  rw [fails.mpr ⟨by decide, unsignaled⟩] at polled'
  exact ⟨⟨signaled, once signaled, polled⟩, ⟨polls, unsignaled, none unsignaled, polled'⟩, ended,
    finished 0 true ended⟩

end Gate

end RolloutWatch
