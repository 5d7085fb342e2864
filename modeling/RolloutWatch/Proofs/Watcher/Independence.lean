import RolloutWatch.Proofs.Watcher.Collecting

/-!
# Collecting without regard to listeners

Everything in a run that is not a collect is left out, and what remains collects the
same replies one after the other. Every collect of the run gives what it gives there,
and leaves the same ledger and the same signal behind. So two watchers of one rollout
agree collect by collect, whatever becomes of their listeners in between.
-/

namespace RolloutWatch

/-- A collect of a run. -/
structure Collection where
  reply : Reply
  result : Except CollectFault Snapshot
  /-- The ledger behind the collect. -/
  ledger : Ledger
  /-- Whether the gate was signaled behind the collect. -/
  signaled : Bool
deriving Repr

namespace Collection

/-- The collect of a reply that had an effect. -/
def of (reply : Reply) (effect : Effect (Except CollectFault Snapshot)) : Collection where
  reply
  result := effect.result
  ledger := effect.watcher.ledger
  signaled := effect.watcher.gate.signaled

/-- The collect that an action with some effect was. A collect that was unavailable is none. -/
def of? (action : Action) (effect : Effect Outcome) : Option Collection :=
  match action, effect.result with
  | .owner (.collect reply), .collected result =>
    some (of reply { watcher := effect.watcher, result })
  | _, _ => none

/-- The snapshot that a collect gave. -/
def snapshot? (collection : Collection) : Option Snapshot :=
  collection.result.toOption

end Collection

namespace Watcher

/-- The collects of a run. -/
def collections (w : Watcher) (actions : List Action) : List Collection :=
  (actions.zip (w.run actions).2).filterMap fun step => Collection.of? step.1 step.2

/-- Collects replies one after the other, with nothing in between. -/
def collectAll (w : Watcher) : List Reply → Watcher × List Collection
  | [] => (w, [])
  | reply :: rest =>
    let effect := w.collect reply
    let (after, later) := effect.watcher.collectAll rest
    (after, .of reply effect :: later)

theorem collections_cons (w : Watcher) (action : Action) (rest : List Action) :
    w.collections (action :: rest) =
      (Collection.of? action (w.act action)).toList ++
        (w.act action).watcher.collections rest := by
  rw [collections, run_cons, List.zip_cons_cons, List.filterMap_cons]
  cases Collection.of? action (w.act action) <;> rfl

theorem collectAll_append (first second : List Reply) :
    ∀ w : Watcher, (w.collectAll (first ++ second)).2 =
      (w.collectAll first).2 ++ ((w.collectAll first).1.collectAll second).2 := by
  induction first with
  | nil =>
      intro w
      rfl
  | cons reply rest ih =>
      intro w
      exact congrArg (List.cons _) (ih (w.collect reply).watcher)

/-- What is collected from the first replies does not depend on the later ones. -/
theorem collectAll_prefix (w : Watcher) {replies responses : List Reply}
    (first : replies <+: responses) :
    (w.collectAll replies).2 <+: (w.collectAll responses).2 := by
  obtain ⟨rest, rfl⟩ := first
  rw [collectAll_append]
  exact List.prefix_append ..

/-- An action is a collect that takes place, or it gives no snapshot. -/
theorem collection_or_aside (w : Watcher) (action : Action) :
    (∃ reply, Collection.of? action (w.act action) = some (.of reply (w.collect reply)) ∧
        (w.act action).watcher = (w.collect reply).watcher ∧
        (w.act action).result = .collected (w.collect reply).result) ∨
      Collection.of? action (w.act action) = none ∧
        (w.act action).result.snapshot? = none := by
  cases action with
  | owner action =>
      rw [act]
      split
      · cases action <;> exact .inr ⟨rfl, rfl⟩
      · cases action with
        | collect reply => exact .inl ⟨reply, rfl, rfl, rfl⟩
        | subscribe | publish | close | takeHandle => exact .inr ⟨rfl, rfl⟩
  | resume | abandon =>
      rw [act]
      split <;> exact .inr ⟨rfl, rfl⟩
  | reader action => exact .inr ⟨rfl, rfl⟩

/-- The collects of a run are those of its replies alone, and leave the watchers abreast. The
induction is on the actions. What is not a collect leaves the run abreast of the other watcher,
which does nothing meanwhile. -/
theorem collections_run (actions : List Action) :
    ∀ {a b : Watcher}, Abreast a b →
      let alone := b.collectAll ((a.collections actions).map (·.reply))
      a.collections actions = alone.2 ∧ Abreast (a.run actions).1 alone.1 := by
  induction actions with
  | nil =>
      intro a b abreast
      exact ⟨rfl, abreast⟩
  | cons action rest ih =>
      intro a b abreast
      obtain ⟨reply, here, after, _⟩ | ⟨here, unbuffered⟩ := a.collection_or_aside action
      · obtain ⟨result, behind⟩ := abreast.collect reply
        have same : Collection.of reply (a.collect reply) = .of reply (b.collect reply) := by
          rw [Collection.of, Collection.of, result, behind.ledger, behind.signaled]
        obtain ⟨later, final⟩ := ih behind
        rw [collections_cons, run_cons, here, after]
        exact ⟨List.cons_eq_cons.mpr ⟨same, later⟩, final⟩
      · have still := ((happens_act a action).abreast unbuffered).trans abreast
        rw [collections_cons, run_cons, here]
        exact ih still

/-- What a run collects from the first of some responses is the first of what they all give. -/
theorem collections_prefix {a b : Watcher} (abreast : Abreast a b) {actions : List Action}
    {responses : List Reply} (asked : (a.collections actions).map (·.reply) <+: responses) :
    a.collections actions <+: (b.collectAll responses).2 := by
  rw [(collections_run actions abreast).1]
  exact b.collectAll_prefix asked

/-- The snapshots that a run buffers are those that its collects give. -/
theorem buffered_eq_collections (actions : List Action) :
    ∀ w : Watcher, w.buffered actions = (w.collections actions).filterMap (·.snapshot?) := by
  induction actions with
  | nil =>
      intro w
      rfl
  | cons action rest ih =>
      intro w
      rw [buffered_cons, collections_cons, List.filterMap_append, ih]
      congr 1
      obtain ⟨reply, here, _, result⟩ | ⟨here, unbuffered⟩ := w.collection_or_aside action
      · rw [here, result]
        cases given : (w.collect reply).result <;>
          simp [Collection.of, Collection.snapshot?, Outcome.snapshot?, given, Except.toOption]
      · rw [here, unbuffered]
        rfl

/-- One of three tasks runs, and one failed. -/
def taskLost : Reply :=
  .listing 1 [{ id := ⟨"e1"⟩, message := "task failed", createdAt := { seconds := 120 } }]

/-- A rollout that loses a task and recovers, seen by a describer that fails in between. -/
def recovering : List Reply :=
  [.sample 2, .failed (.throttled "rate exceeded"), taskLost, .sample 3]

/-- It is watched for two listeners with room for one snapshot each. A publish waits for the first
of them and then for the second, is given up, and the watcher is closed. -/
def crowded : List Action :=
  [.owner .subscribe, .owner .subscribe, .owner (.collect (.sample 2)), .owner .publish,
    .owner (.collect (.failed (.throttled "rate exceeded"))), .owner (.collect taskLost),
    .owner .publish, .owner (.collect (.sample 0)), .reader (.receive 0), .resume, .abandon,
    .owner .close, .owner (.collect (.sample 3))]

/-- It is watched for nobody. -/
def deserted : List Action :=
  recovering.map fun reply => .owner (.collect reply)

/-- The same plan with mailboxes that take more. -/
def roomyPlan : Plan :=
  { Plan.sample with capacity := 5, capacity_pos := by decide }

end Watcher

end RolloutWatch
