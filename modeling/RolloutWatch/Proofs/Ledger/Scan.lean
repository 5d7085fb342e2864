import RolloutWatch.Ledger

/-!
# What a scan finds

A scan ends at the first event that is older than the deployment or that the ledger
knows, so it looks at the first events of a list only. Where the list is newest first
and no event that the ledger knows stands in front of one that it does not know, these
are all the events that concern the deployment and are not in the ledger.
-/

namespace RolloutWatch

/-- An event concerns a deployment unless it is older. -/
def ServiceEvent.Concerns (event : ServiceEvent) (since : Instant) : Prop :=
  ¬event.createdAt < since

instance (event : ServiceEvent) (since : Instant) : Decidable (event.Concerns since) :=
  inferInstanceAs (Decidable ¬_)

/-- What is no newer than an old event is old. -/
theorem ServiceEvent.older_of_older {since : Instant} {newer older : ServiceEvent}
    (order : ¬newer.createdAt < older.createdAt) (old : ¬newer.Concerns since) :
    ¬older.Concerns since := by
  have before := Decidable.not_not.mp old
  intro concerns
  apply concerns
  rw [Instant.lt_iff] at before order ⊢
  omega

namespace Ledger

section Cons

variable {since : Instant} {ledger : Ledger} {event : ServiceEvent}

theorem scan_cons_of_older (older : ¬event.Concerns since) (rest : List ServiceEvent) :
    scan since ledger (event :: rest) = ([], ledger) := by
  rw [scan, if_pos]
  simp [Decidable.not_not.mp older]

theorem scan_cons_of_known (known : event.id ∈ ledger.members) (rest : List ServiceEvent) :
    scan since ledger (event :: rest) = ([], ledger) := by
  rw [scan, if_pos]
  simp [IdentifierSet.contains_iff.mpr known]

theorem scan_cons_of_new (concerns : event.Concerns since) (new : event.id ∉ ledger.members)
    (rest : List ServiceEvent) :
    scan since ledger (event :: rest) =
      (event :: (scan since (ledger.insert event.id) rest).1,
        (scan since (ledger.insert event.id) rest).2) := by
  have unknown : ledger.contains event.id.text = false :=
    Bool.eq_false_iff.mpr fun known => new (IdentifierSet.contains_iff.mp known)
  have recent : decide (event.createdAt < since) = false := decide_eq_false concerns
  rw [scan, recent, unknown]
  rfl

end Cons

/-- A scan enters the events that it looks at behind those that the ledger holds, in order. What
it looks at is not in the ledger yet, so each of them is one more member. -/
theorem members_scan {since : Instant} (events : List ServiceEvent) :
    ∀ ledger : Ledger, (scan since ledger events).2.members =
      ledger.members ++ (scan since ledger events).1.map (·.id) := by
  induction events with
  | nil =>
      intro ledger
      exact (List.append_nil _).symm
  | cons event rest ih =>
      intro ledger
      by_cases concerns : event.Concerns since
      · by_cases known : event.id ∈ ledger.members
        · rw [scan_cons_of_known known, List.map_nil, List.append_nil]
        · rw [scan_cons_of_new concerns known, ih, HashSet.members_insert_of_notMem known,
            List.map_cons, List.append_assoc, List.singleton_append]
      · rw [scan_cons_of_older concerns, List.map_nil, List.append_nil]

@[simp] theorem hasher_scan {since : Instant} (events : List ServiceEvent) :
    ∀ ledger : Ledger, (scan since ledger events).2.hasher = ledger.hasher := by
  induction events with
  | nil =>
      intro ledger
      rfl
  | cons event rest ih =>
      intro ledger
      by_cases concerns : event.Concerns since
      · by_cases known : event.id ∈ ledger.members
        · rw [scan_cons_of_known known]
        · rw [scan_cons_of_new concerns known, ih, HashSet.hasher_insert]
      · rw [scan_cons_of_older concerns]

/-- A scan enters the events that it looks at, and nothing else. -/
theorem mem_scan {since : Instant} {id : Identifier .event} (events : List ServiceEvent)
    (ledger : Ledger) :
    id ∈ (scan since ledger events).2.members ↔
      id ∈ ledger.members ∨ ∃ event ∈ (scan since ledger events).1, event.id = id := by
  rw [members_scan, List.mem_append, List.mem_map]

/-- A scan looks at nothing that is older than the deployment. -/
theorem concerns_of_mem_scan {since : Instant} {event : ServiceEvent} (events : List ServiceEvent) :
    ∀ ledger : Ledger, event ∈ (scan since ledger events).1 → event.Concerns since := by
  induction events with
  | nil =>
      intro ledger member
      cases member
  | cons first rest ih =>
      intro ledger member
      by_cases concerns : first.Concerns since
      · by_cases known : first.id ∈ ledger.members
        · rw [scan_cons_of_known known] at member
          cases member
        · rw [scan_cons_of_new concerns known] at member
          obtain rfl | later := List.mem_cons.mp member
          · exact concerns
          · exact ih _ later
      · rw [scan_cons_of_older concerns] at member
        cases member

/-- If the identifiers of some events are different from each other and from all that the ledger
holds, each of these events is new when it is entered behind the others. -/
theorem new_of_mem_run {events : List ServiceEvent} :
    ∀ {ledger : Ledger}, (ledger.members ++ events.map (·.id)).Nodup →
      ∀ entry ∈ run ledger (events.map (.insert ·.id)), entry.2 = true := by
  induction events with
  | nil =>
      intro ledger _ entry member
      cases member
  | cons event rest ih =>
      intro ledger nodup entry member
      have new : event.id ∉ ledger.members := by
        intro known
        exact (List.nodup_append.mp nodup).2.2 _ known _ List.mem_cons_self rfl
      obtain rfl | later := List.mem_cons.mp member
      · exact (HashSet.enter_snd_iff ledger event.id).mpr new
      · have behind : ((ledger.insert event.id).members ++ rest.map (·.id)).Nodup := by
          rw [HashSet.members_insert_of_notMem new, List.append_assoc]
          exact nodup
        exact ih behind entry later

/-- A list of events that a scan gets right. -/
structure Scannable (since : Instant) (ledger : Ledger) (events : List ServiceEvent) : Prop where
  distinct : events.Pairwise fun newer older => newer.id ≠ older.id
  newestFirst : events.Pairwise fun newer older => ¬newer.createdAt < older.createdAt
  /-- Behind an event that the ledger knows there is none to be found. -/
  unhidden : events.Pairwise fun newer older =>
    newer.id ∈ ledger.members → older.Concerns since → older.id ∈ ledger.members

namespace Scannable

/-- The events behind one that is entered can be scanned. -/
theorem tail {since : Instant} {ledger : Ledger} {event : ServiceEvent}
    {rest : List ServiceEvent} (h : Scannable since ledger (event :: rest)) :
    Scannable since (ledger.insert event.id) rest := by
  obtain ⟨others, distinct⟩ := List.pairwise_cons.mp h.distinct
  refine ⟨distinct, h.newestFirst.tail, ?_⟩
  refine (List.Pairwise.and_mem.mp h.unhidden.tail).imp ?_
  rintro newer older ⟨member, _, hides⟩ known concerns
  rw [HashSet.mem_insert] at known ⊢
  obtain known | same := known
  · exact .inl (hides known concerns)
  · exact absurd same.symm (others newer member)

end Scannable

/-- A scan finds all that concerns the deployment and is new. -/
theorem scan_eq_filter {since : Instant} (events : List ServiceEvent) :
    ∀ {ledger : Ledger}, Scannable since ledger events →
      (scan since ledger events).1 =
        events.filter fun event => event.Concerns since ∧ event.id ∉ ledger.members := by
  induction events with
  | nil =>
      intro ledger _
      rfl
  | cons event rest ih =>
      intro ledger h
      obtain ⟨others, _⟩ := List.pairwise_cons.mp h.distinct
      obtain ⟨behind, _⟩ := List.pairwise_cons.mp h.newestFirst
      obtain ⟨hidden, _⟩ := List.pairwise_cons.mp h.unhidden
      symm
      by_cases concerns : event.Concerns since
      · by_cases known : event.id ∈ ledger.members
        · rw [scan_cons_of_known known, List.filter_eq_nil_iff]
          intro other member found
          obtain ⟨recent, new⟩ := of_decide_eq_true found
          obtain rfl | later := List.mem_cons.mp member
          · exact new known
          · exact new (hidden other later known recent)
        · rw [scan_cons_of_new concerns known, ih h.tail,
            List.filter_cons_of_pos (by simp [concerns, known])]
          refine congrArg (event :: ·) (List.filter_congr fun other member => ?_)
          have ne : other.id ≠ event.id := (others other member).symm
          simp [HashSet.mem_insert, ne]
      · rw [scan_cons_of_older concerns, List.filter_eq_nil_iff]
        intro other member found
        obtain ⟨recent, _⟩ := of_decide_eq_true found
        obtain rfl | later := List.mem_cons.mp member
        · exact concerns recent
        · exact ServiceEvent.older_of_older (behind other later) concerns recent

/-- Such a scan leaves all that concerns the deployment in the ledger. -/
theorem mem_scan_of_scannable {since : Instant} {ledger : Ledger} {events : List ServiceEvent}
    (h : Scannable since ledger events) {id : Identifier .event} :
    id ∈ (scan since ledger events).2.members ↔
      id ∈ ledger.members ∨ ∃ event ∈ events, event.Concerns since ∧ event.id = id := by
  rw [mem_scan, scan_eq_filter events h]
  constructor
  · rintro (known | ⟨event, found, same⟩)
    · exact .inl known
    · obtain ⟨member, chosen⟩ := List.mem_filter.mp found
      exact .inr ⟨event, member, (of_decide_eq_true chosen).1, same⟩
  · rintro (known | ⟨event, member, concerns, rfl⟩)
    · exact .inl known
    · by_cases known : event.id ∈ ledger.members
      · exact .inl known
      · exact .inr ⟨event, List.mem_filter.mpr ⟨member, decide_eq_true ⟨concerns, known⟩⟩, rfl⟩

end Ledger

end RolloutWatch
