import RolloutWatch.Proofs.Settings.Guards
import RolloutWatch.Proofs.Watcher.Collecting

/-!
# Capacities that are taken from settings

A capacity from a text is at least one and fits into 64 bits, and it comes unchanged to the
place where mailboxes are made. There it may still be too large: the guards of the settings
let pass about eight times more than a mailbox can be made for.
-/

namespace RolloutWatch.Watcher

open Settings

/-- Whether a listener is added depends on the capacity of the plan alone. -/
theorem exists_listener_iff (w : Watcher) :
    (∃ listener, w.subscribe.result = some listener) ↔
      w.plan.capacity ≤ Mailbox.largestCapacity := by
  rw [subscribe]
  split
  · next beyond => simp [Nat.not_le.mpr beyond]
  · next held =>
      have fits := Nat.not_lt.mp held
      split
      all_goals exact ⟨fun _ => fits, fun _ => ⟨_, rfl⟩⟩

/-- If no mailbox can be made so large, subscribing does nothing. -/
theorem subscribe_of_lt {w : Watcher} (beyond : Mailbox.largestCapacity < w.plan.capacity) :
    w.subscribe = { watcher := w, result := none } := by
  rw [subscribe, if_pos beyond]

/-- In use, the capacity stays what the settings say. -/
theorem capacity_run {s : Settings} (positive : 1 ≤ s.listenerCapacity) (target : Target)
    (actions : List Action) :
    ((create (.ofSettings target s)).run actions).1.plan.capacity = s.listenerCapacity := by
  calc ((create (.ofSettings target s)).run actions).1.plan.capacity
    _ = (Plan.ofSettings target s).capacity := by
        rw [plan_run]
        rfl
    _ = s.listenerCapacity := Nat.max_eq_right positive

/-- Settings that are made of a text give a capacity from one up to the largest number of 64 bits,
and at any time in the use of the watcher with these settings it decides about subscribing. A
listener is added exactly if a mailbox can be made for so many snapshots, and if not, nothing
changes. -/
theorem subscribes_iff_capacity_fits {text : String} {s : Settings} (made : ofYaml text = .ok s)
    (target : Target) (actions : List Action) :
    let w := ((create (.ofSettings target s)).run actions).1
    1 ≤ s.listenerCapacity ∧ s.listenerCapacity < 2 ^ 64 ∧
      w.plan.capacity = s.listenerCapacity ∧
      ((∃ listener, w.subscribe.result = some listener) ↔
        s.listenerCapacity ≤ Mailbox.largestCapacity) ∧
      (Mailbox.largestCapacity < s.listenerCapacity →
        w.subscribe = { watcher := w, result := none }) := by
  intro w
  have checked := checked_of_ofDocument (ofYaml_eq_ok_iff.mp made).1
  have kept : w.plan.capacity = s.listenerCapacity := capacity_run checked.positive target actions
  refine ⟨checked.positive, checked.fits, kept, ?_, fun beyond => ?_⟩
  · rw [← kept]
    exact w.exists_listener_iff
  · rw [← kept] at beyond
    exact subscribe_of_lt beyond

/-- The largest capacity that works, in a watcher that is closed after it was used. -/
theorem subscribes_iff_capacity_fits_atLargest :
    ofYaml "listener_capacity: 2305843009213693951" =
        .ok { listenerCapacity := 2305843009213693951 } ∧
      ∀ target, ∃ listener, (((create (.ofSettings target
        { listenerCapacity := 2305843009213693951 })).run
          [.owner .subscribe, .owner .close]).1.subscribe).result = some listener := by
  have made : ofYaml "listener_capacity: 2305843009213693951" =
      .ok { listenerCapacity := 2305843009213693951 } := by decide +kernel
  refine ⟨made, fun target => ?_⟩
  obtain ⟨_, _, _, subscribes, _⟩ :=
    subscribes_iff_capacity_fits made target [.owner .subscribe, .owner .close]
  exact subscribes.mpr (Nat.le_refl _)

/-- The next capacity passes the guards of the settings, and with it no listener is ever added. -/
theorem no_listener_beyond_largest :
    ofYaml "listener_capacity: 2305843009213693952" =
        .ok { listenerCapacity := 2305843009213693952 } ∧
      ∀ target actions, (((create (.ofSettings target
        { listenerCapacity := 2305843009213693952 })).run actions).1.subscribe).result = none := by
  refine ⟨by decide +kernel, fun target actions => ?_⟩
  have beyond : Mailbox.largestCapacity < ((create (.ofSettings target
      { listenerCapacity := 2305843009213693952 })).run actions).1.plan.capacity := by
    rw [capacity_run (by decide)]
    decide
  rw [subscribe_of_lt beyond]

end RolloutWatch.Watcher
