/-!
# The completion gate

A gate tells any number of readers that a rollout is complete. Only its owner can
signal it, a signal cannot be taken back, and the first signal is told apart from
the later ones. Readers look at the gate through handles, which all show the gate
itself.

A wait ends when the gate is signaled, or without success when its owner goes
away and nobody can signal any more. The signal counts first: a wait on a signaled
gate succeeds, with or without an owner.
-/

namespace RolloutWatch

/-- What a wait shows when it is polled. -/
inductive WaitStatus where
  | pending
  /-- The wait ends, because the gate is signaled or because it never will be. -/
  | ended (signaled : Bool)
  /-- The wait ended before. -/
  | finished
deriving DecidableEq, Repr

/-- A one-way switch with readers. -/
structure Gate where
  signaled : Bool := false
  /-- Whether the owner is still there. -/
  owned : Bool := true
  /-- The number of handles given out. -/
  handles : Nat := 0
  /-- For each wait that is kept, whether it has ended. -/
  waits : List Bool := []
deriving DecidableEq, Repr

namespace Gate

/-- Signals the gate, and tells whether this signal was the first. -/
def signal (gate : Gate) : Gate × Bool :=
  if gate.owned && !gate.signaled then ({ gate with signaled := true }, true)
  else (gate, false)

@[simp] theorem signaled_signal (gate : Gate) :
    gate.signal.1.signaled = (gate.signaled || gate.owned) := by
  unfold signal
  cases gate.owned <;> cases h : gate.signaled <;> simp [h]

@[simp] theorem signal_snd (gate : Gate) :
    gate.signal.2 = (gate.owned && !gate.signaled) := by
  unfold signal
  cases gate.owned <;> cases gate.signaled <;> rfl

/-- The owner goes away. -/
def dropOwner (gate : Gate) : Gate :=
  { gate with owned := false }

/-- Gives out one more handle, and tells its number. -/
def giveHandle (gate : Gate) : Gate × Nat :=
  ({ gate with handles := gate.handles + 1 }, gate.handles)

/-- What a wait shows that is polled now and has not ended. -/
def waitStatus (gate : Gate) : WaitStatus :=
  if gate.signaled then .ended true
  else if gate.owned then .pending
  else .ended false

theorem waitStatus_eq_pending_iff (gate : Gate) :
    gate.waitStatus = .pending ↔ gate.signaled = false ∧ gate.owned = true := by
  unfold waitStatus
  cases gate.signaled <;> cases gate.owned <;> simp

theorem waitStatus_eq_ended_iff (gate : Gate) (signaled : Bool) :
    gate.waitStatus = .ended signaled ↔
      gate.signaled = signaled ∧ (signaled = false → gate.owned = false) := by
  unfold waitStatus
  cases gate.signaled <;> cases gate.owned <;> cases signaled <;> simp

/-- Starts a wait that is kept, and polls it once. -/
def startWait (gate : Gate) : Gate × WaitStatus :=
  ({ gate with waits := gate.waits ++ [gate.waitStatus != .pending] }, gate.waitStatus)

/-- Polls a wait that is kept. -/
def pollWait (gate : Gate) (wait : Nat) : Gate × WaitStatus :=
  if gate.waits[wait]?.getD true then (gate, .finished)
  else
    ({ gate with waits := gate.waits.set wait (gate.waitStatus != .pending) }, gate.waitStatus)

end Gate

end RolloutWatch
