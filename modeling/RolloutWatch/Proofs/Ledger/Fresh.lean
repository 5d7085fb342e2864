import RolloutWatch.Proofs.Ledger.Scan

/-!
# The fresh beginning of a list of events

Events are fresh if they concern the deployment and have identifiers of their own, which
the ledger does not hold. Every list has one longest beginning of fresh events. These are
the events that a scan looks at, so that whatever stands behind them in the list is of no
importance to it.
-/

namespace RolloutWatch.Ledger

variable {since : Instant} {ledger : Ledger} {event : ServiceEvent}
  {events fresh rest : List ServiceEvent}

/-- Every event concerns the deployment and has an identifier that neither the ledger holds nor
another of the events has. -/
structure IsFresh (since : Instant) (ledger : Ledger) (events : List ServiceEvent) : Prop where
  concerned : ∀ event ∈ events, event.Concerns since
  unknown : ∀ event ∈ events, event.id ∉ ledger.members
  distinct : (events.map (·.id)).Nodup

/-- No longer beginning of the events is fresh. -/
structure LongestFresh (since : Instant) (ledger : Ledger) (events fresh : List ServiceEvent) :
    Prop where
  initial : fresh <+: events
  isFresh : IsFresh since ledger fresh
  longest : ∀ other, other <+: events → IsFresh since ledger other → other.length ≤ fresh.length

theorem isFresh_nil : IsFresh since ledger [] :=
  ⟨nofun, nofun, List.nodup_nil⟩

/-- The events behind the first are fresh for the ledger that holds it. -/
theorem isFresh_cons :
    IsFresh since ledger (event :: rest) ↔
      event.Concerns since ∧ event.id ∉ ledger.members ∧
        IsFresh since (ledger.insert event.id) rest := by
  constructor
  · rintro ⟨concerned, unknown, distinct⟩
    rw [List.map_cons, List.nodup_cons] at distinct
    rw [List.forall_mem_cons] at concerned unknown
    refine ⟨concerned.1, unknown.1, concerned.2, fun other member known => ?_, distinct.2⟩
    obtain known | same := HashSet.mem_insert.mp known
    · exact unknown.2 other member known
    · exact distinct.1 (List.mem_map.mpr ⟨other, member, same⟩)
  · rintro ⟨concerns, new, concerned, unknown, distinct⟩
    refine ⟨List.forall_mem_cons.mpr ⟨concerns, concerned⟩,
      List.forall_mem_cons.mpr ⟨new, fun other member known => ?_⟩, ?_⟩
    · exact unknown other member (HashSet.mem_insert.mpr (.inl known))
    · rw [List.map_cons, List.nodup_cons]
      refine ⟨fun again => ?_, distinct⟩
      obtain ⟨other, member, same⟩ := List.mem_map.mp again
      exact unknown other member (HashSet.mem_insert.mpr (.inr same))

/-- If the first event is not fresh, no event is in a fresh beginning. -/
theorem longestFresh_nil_of_stale (stale : ¬(event.Concerns since ∧ event.id ∉ ledger.members)) :
    LongestFresh since ledger (event :: rest) [] := by
  refine ⟨List.nil_prefix, isFresh_nil, fun other initial fresh => ?_⟩
  obtain rfl | ⟨later, rfl, _⟩ := List.prefix_cons_iff.mp initial
  · exact Nat.le_refl 0
  · obtain ⟨concerns, new, _⟩ := isFresh_cons.mp fresh
    exact absurd ⟨concerns, new⟩ stale

/-- A scan looks at the longest fresh beginning, by induction on the events for every ledger. -/
theorem longestFresh_scan (events : List ServiceEvent) :
    ∀ ledger : Ledger, LongestFresh since ledger events (scan since ledger events).1 := by
  induction events with
  | nil =>
      intro ledger
      exact ⟨List.nil_prefix, isFresh_nil, fun other initial _ => initial.length_le⟩
  | cons event rest ih =>
      intro ledger
      by_cases concerns : event.Concerns since
      · by_cases known : event.id ∈ ledger.members
        · rw [scan_cons_of_known known]
          exact longestFresh_nil_of_stale fun fresh => fresh.2 known
        · rw [scan_cons_of_new concerns known]
          obtain ⟨initial, fresh, longest⟩ := ih (ledger.insert event.id)
          refine ⟨(List.prefix_cons_inj event).mpr initial,
            isFresh_cons.mpr ⟨concerns, known, fresh⟩, fun other begins another => ?_⟩
          obtain rfl | ⟨later, rfl, within⟩ := List.prefix_cons_iff.mp begins
          · exact Nat.zero_le _
          · exact Nat.succ_le_succ (longest later within (isFresh_cons.mp another).2.2)
      · rw [scan_cons_of_older concerns]
        exact longestFresh_nil_of_stale fun fresh => concerns fresh.1

/-- There is no other longest fresh beginning. -/
theorem LongestFresh.eq_scan (h : LongestFresh since ledger events fresh) :
    fresh = (scan since ledger events).1 := by
  have scanned : LongestFresh since ledger events (scan since ledger events).1 :=
    longestFresh_scan events ledger
  have shorter := scanned.longest fresh h.initial h.isFresh
  have longer := h.longest _ scanned.initial scanned.isFresh
  have within := List.prefix_of_prefix_length_le h.initial scanned.initial shorter
  exact within.eq_of_length (Nat.le_antisymm shorter longer)

/-- Fresh events are all of their own fresh beginning. -/
theorem IsFresh.longestFresh (h : IsFresh since ledger events) :
    LongestFresh since ledger events events :=
  ⟨List.prefix_rfl, h, fun _ initial _ => initial.length_le⟩

/-- What stands behind the fresh beginning has no effect on a scan. -/
theorem scan_eq_of_longestFresh {events' : List ServiceEvent}
    (h : LongestFresh since ledger events fresh) (h' : LongestFresh since ledger events' fresh) :
    scan since ledger events = scan since ledger events' := by
  have same : (scan since ledger events).1 = (scan since ledger events').1 :=
    h.eq_scan.symm.trans h'.eq_scan
  refine Prod.ext same (HashSet.ext ?_ ?_)
  · rw [hasher_scan, hasher_scan]
  · rw [members_scan, members_scan, same]

section Members

variable {other : Ledger} (same : other.members = ledger.members)

include same

theorem isFresh_congr : IsFresh since other events ↔ IsFresh since ledger events := by
  constructor
  · rintro ⟨concerned, unknown, distinct⟩
    exact ⟨concerned, same ▸ unknown, distinct⟩
  · rintro ⟨concerned, unknown, distinct⟩
    exact ⟨concerned, same ▸ unknown, distinct⟩

/-- Two ledgers with the same members have the same events scanned, whatever their hashers. -/
theorem scan_congr (events : List ServiceEvent) :
    (scan since other events).1 = (scan since ledger events).1 ∧
      (scan since other events).2.members = (scan since ledger events).2.members := by
  have found : LongestFresh since other events (scan since other events).1 :=
    longestFresh_scan events other
  have scanned : (scan since other events).1 = (scan since ledger events).1 :=
    LongestFresh.eq_scan ⟨found.initial, (isFresh_congr same).mp found.isFresh,
      fun front begins another => found.longest front begins ((isFresh_congr same).mpr another)⟩
  refine ⟨scanned, ?_⟩
  rw [members_scan, members_scan, scanned, same]

end Members

end RolloutWatch.Ledger
