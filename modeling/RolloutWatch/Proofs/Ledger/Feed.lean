import Mathlib.Data.List.Nodup
import Mathlib.Logic.ExistsUnique
import RolloutWatch.Proofs.Ledger.Scan

/-!
# Scanning a feed that grows

A describer lists the newest events of a history that grows at its end, newest first
and up to a cap. What it lists slides over the history, so that an event may go out of
sight before it is ever listed, or be listed many times.

An event that is listed and was listed before has behind it only events that were
listed with it. So a known event never hides an unknown one, and each scan finds what
is listed for the first time.
-/

namespace RolloutWatch

/-- The newest events of a history, newest first. -/
def newestFirst (cap : Option Nat) (history : List ServiceEvent) : List ServiceEvent :=
  match cap with
  | none => history.reverse
  | some cap => history.reverse.take cap

/-- The responses list the newest events of a history that grows. -/
structure GrowingFeed (cap : Option Nat) (histories responses : List (List ServiceEvent)) :
    Prop where
  listed : responses = histories.map (newestFirst cap)
  growing : histories.Pairwise (· <+: ·)
  distinct : ∀ history ∈ histories, (history.map (·.id)).Nodup
  ordered : ∀ history ∈ histories,
    history.Pairwise fun earlier later => ¬later.createdAt < earlier.createdAt

/-- The events that concern a deployment in one of the responses and are in none before it. -/
def firstShown (since : Instant) (responses : List (List ServiceEvent)) (place : Nat) :
    List ServiceEvent :=
  (responses[place]?.getD []).filter fun event =>
    event.Concerns since ∧ ∀ earlier ∈ responses.take place, event ∉ earlier

theorem mem_firstShown {since : Instant} {responses : List (List ServiceEvent)} {place : Nat}
    {event : ServiceEvent} :
    event ∈ firstShown since responses place ↔
      (∃ response, responses[place]? = some response ∧ event ∈ response) ∧
        event.Concerns since ∧ ∀ earlier ∈ responses.take place, event ∉ earlier := by
  rw [firstShown, List.mem_filter, decide_eq_true_iff]
  refine and_congr_left fun _ => ?_
  cases responses[place]? with
  | none => simp
  | some response => simp

theorem exists_firstShown {since : Instant} {responses : List (List ServiceEvent)}
    {event : ServiceEvent} (concerns : event.Concerns since)
    (shown : ∃ response ∈ responses, event ∈ response) :
    ∃ place, event ∈ firstShown since responses place := by
  have found : responses.findIdx (event ∈ ·) < responses.length :=
    List.findIdx_lt_length.mpr (by simpa using shown)
  refine ⟨_, mem_firstShown.mpr ⟨⟨_, List.getElem?_eq_getElem found, ?_⟩, concerns, ?_⟩⟩
  · exact of_decide_eq_true (List.findIdx_getElem (w := found))
  · intro earlier member inside
    obtain ⟨place, lt, rfl⟩ := List.mem_take_iff_getElem.mp member
    have missed := List.not_of_lt_findIdx (Nat.lt_of_lt_of_le lt (Nat.min_le_left ..))
    exact of_decide_eq_false missed inside

/-- What was shown before is not shown for the first time. -/
theorem not_mem_firstShown_of_lt {since : Instant} {responses : List (List ServiceEvent)}
    {place other : Nat} {event : ServiceEvent} (lt : place < other)
    (here : event ∈ firstShown since responses place) :
    event ∉ firstShown since responses other := by
  intro there
  obtain ⟨⟨response, at_place, member⟩, _⟩ := mem_firstShown.mp here
  obtain ⟨_, _, never⟩ := mem_firstShown.mp there
  refine never response (List.mem_of_getElem? (i := place) ?_) member
  rw [List.getElem?_take_of_lt lt, at_place]

/-- What is shown is shown for the first time exactly once. -/
theorem existsUnique_firstShown {since : Instant} {responses : List (List ServiceEvent)}
    {event : ServiceEvent} (concerns : event.Concerns since)
    (shown : ∃ response ∈ responses, event ∈ response) :
    ∃! place, event ∈ firstShown since responses place := by
  obtain ⟨first, there⟩ := exists_firstShown concerns shown
  refine ⟨first, there, ?_⟩
  intro place here
  obtain lt | same | lt := Nat.lt_trichotomy place first
  · exact absurd there (not_mem_firstShown_of_lt lt here)
  · exact same
  · exact absurd here (not_mem_firstShown_of_lt lt there)

namespace Ledger

/-- The ledger after the events of some responses were scanned, one response after the other. -/
def after (since : Instant) (responses : List (List ServiceEvent)) : Ledger :=
  responses.foldl (fun ledger events => (scan since ledger events).2) ∅

theorem after_snoc (since : Instant) (responses : List (List ServiceEvent))
    (events : List ServiceEvent) :
    after since (responses ++ [events]) = (scan since (after since responses) events).2 := by
  rw [after, List.foldl_append]
  rfl

end Ledger

theorem newestFirst_sublist (cap : Option Nat) (history : List ServiceEvent) :
    (newestFirst cap history).Sublist history.reverse := by
  cases cap with
  | none => exact List.Sublist.refl _
  | some cap => exact List.take_sublist ..

theorem mem_of_mem_newestFirst {cap : Option Nat} {history : List ServiceEvent}
    {event : ServiceEvent} (listed : event ∈ newestFirst cap history) : event ∈ history :=
  List.mem_reverse.mp ((newestFirst_sublist cap history).subset listed)

/-- What is listed of a history that has grown: some of what is new, and then some of what was
listed before. -/
theorem newestFirst_append (cap : Option Nat) (history more : List ServiceEvent) :
    ∃ new old, newestFirst cap (history ++ more) = new ++ old ∧ new ⊆ more ∧
      old ⊆ newestFirst cap history := by
  cases cap with
  | none =>
      refine ⟨more.reverse, history.reverse, List.reverse_append, ?_, List.Subset.refl _⟩
      exact List.reverse_subset.mpr (List.Subset.refl _)
  | some cap =>
      refine ⟨more.reverse.take cap, history.reverse.take (cap - more.reverse.length), ?_, ?_, ?_⟩
      · rw [newestFirst, List.reverse_append, List.take_append]
      · intro event member
        exact List.mem_reverse.mp (List.mem_of_mem_take member)
      · exact (List.take_prefix_take_left (Nat.sub_le ..)).subset

/-- What is listed behind an event of the past was listed in the past. -/
theorem mem_newestFirst_of_behind {cap : Option Nat} {past more : List ServiceEvent}
    (distinct : (past ++ more).Nodup) {newer older : ServiceEvent}
    (both : [newer, older].Sublist (newestFirst cap (past ++ more))) (known : newer ∈ past) :
    older ∈ newestFirst cap past := by
  obtain ⟨new, old, split, fresh, listed⟩ := newestFirst_append cap past more
  rw [split] at both
  obtain ⟨front, back, parts, left, right⟩ := List.sublist_append_iff.mp both
  cases front with
  | nil =>
      rw [List.nil_append] at parts
      exact listed (right.subset (parts ▸ List.mem_cons_of_mem newer List.mem_cons_self))
  | cons event front =>
      obtain ⟨rfl, _⟩ := List.cons.inj parts
      have inside := fresh (left.subset List.mem_cons_self)
      exact absurd rfl ((List.nodup_append.mp distinct).2.2 newer known newer inside)

namespace GrowingFeed

variable {cap : Option Nat} {histories responses : List (List ServiceEvent)}

/-- What is listed at one place comes from a history. -/
theorem history_of (h : GrowingFeed cap histories responses) {place : Nat}
    {response : List ServiceEvent} (here : responses[place]? = some response) :
    ∃ history, histories[place]? = some history ∧ response = newestFirst cap history := by
  rw [h.listed, List.getElem?_map, Option.map_eq_some_iff] at here
  obtain ⟨history, at_place, same⟩ := here
  exact ⟨history, at_place, same.symm⟩

/-- The histories of earlier responses are beginnings of that of a later one. -/
theorem earlier (h : GrowingFeed cap histories responses) {place : Nat}
    {history : List ServiceEvent} (here : histories[place]? = some history)
    {response : List ServiceEvent} (before : response ∈ responses.take place) :
    ∃ past, response = newestFirst cap past ∧ past <+: history := by
  obtain ⟨other, lt, rfl⟩ := List.mem_take_iff_getElem.mp before
  obtain ⟨past, at_other, same⟩ := h.history_of (List.getElem?_eq_getElem _)
  refine ⟨past, same, ?_⟩
  obtain ⟨inside, rfl⟩ := List.getElem?_eq_some_iff.mp at_other
  obtain ⟨inside', rfl⟩ := List.getElem?_eq_some_iff.mp here
  exact List.pairwise_iff_getElem.mp h.growing _ _ inside inside'
    (Nat.lt_of_lt_of_le lt (Nat.min_le_left ..))

theorem distinct_of (h : GrowingFeed cap histories responses) {history : List ServiceEvent}
    (member : history ∈ histories) :
    (newestFirst cap history).Pairwise fun newer older => newer.id ≠ older.id := by
  have nodup := (List.nodup_reverse.mpr (h.distinct history member)).sublist
    ((newestFirst_sublist cap history).map _ |>.trans (by rw [List.map_reverse]))
  exact List.pairwise_map.mp nodup

theorem ordered_of (h : GrowingFeed cap histories responses) {history : List ServiceEvent}
    (member : history ∈ histories) :
    (newestFirst cap history).Pairwise fun newer older => ¬newer.createdAt < older.createdAt :=
  (List.pairwise_reverse.mpr (h.ordered history member)).sublist (newestFirst_sublist cap history)

/-- An event of an earlier response and one of a later history are the same if their identifiers
are. -/
theorem eq_of_id_eq (h : GrowingFeed cap histories responses) {history past : List ServiceEvent}
    (member : history ∈ histories) (earlier : past <+: history) {known event : ServiceEvent}
    (listed : known ∈ newestFirst cap past) (inside : event ∈ history)
    (same : known.id = event.id) : known = event := by
  have known_inside := earlier.subset (mem_of_mem_newestFirst listed)
  exact List.inj_on_of_nodup_map (h.distinct history member) known_inside inside same

/-- The ledger knows what the earlier responses showed, and then the next response can be
scanned. -/
theorem scannable (h : GrowingFeed cap histories responses) {since : Instant} {place : Nat}
    {response : List ServiceEvent} (here : responses[place]? = some response) {ledger : Ledger}
    (knows : ∀ id, id ∈ ledger.members ↔
      ∃ earlier ∈ responses.take place, ∃ event ∈ earlier, event.Concerns since ∧ event.id = id) :
    Ledger.Scannable since ledger response := by
  obtain ⟨history, at_place, rfl⟩ := h.history_of here
  have member := List.mem_of_getElem? at_place
  refine ⟨h.distinct_of member, h.ordered_of member, ?_⟩
  refine List.pairwise_iff_forall_sublist.mpr ?_
  intro newer older both known concerns
  obtain ⟨earlier, before, event, listed, _, same⟩ := (knows _).mp known
  obtain ⟨past, rfl, more, rfl⟩ := h.earlier at_place before
  -- What is known was listed in the past, and so was what stands behind it there.
  have inside := mem_of_mem_newestFirst (both.subset List.mem_cons_self)
  have eq := h.eq_of_id_eq member (List.prefix_append past more) listed inside same
  have is_past : newer ∈ past := eq ▸ mem_of_mem_newestFirst listed
  have again := mem_newestFirst_of_behind (h.distinct _ member).of_map both is_past
  exact (knows _).mpr ⟨_, before, older, again, concerns, rfl⟩

/-- After some responses the ledger holds what concerns the deployment in one of them. -/
theorem mem_after (h : GrowingFeed cap histories responses) (since : Instant) (place : Nat) :
    ∀ id, id ∈ (Ledger.after since (responses.take place)).members ↔
      ∃ earlier ∈ responses.take place, ∃ event ∈ earlier, event.Concerns since ∧ event.id = id := by
  induction place with
  | zero =>
      intro id
      rw [List.take_zero]
      exact ⟨nofun, nofun⟩
  | succ place ih =>
      intro id
      rw [List.take_add_one]
      cases here : responses[place]? with
      | none => simpa using ih id
      | some response =>
          rw [Option.toList_some, Ledger.after_snoc,
            Ledger.mem_scan_of_scannable (h.scannable here ih), ih]
          simp only [List.mem_append, List.mem_singleton, or_and_right, exists_or, exists_eq_left]

/-- Each scan finds what is shown for the first time. -/
theorem scan_eq_firstShown (h : GrowingFeed cap histories responses) {since : Instant} {place : Nat}
    {response : List ServiceEvent} (here : responses[place]? = some response) :
    (Ledger.scan since (Ledger.after since (responses.take place)) response).1 =
      firstShown since responses place := by
  have knows := h.mem_after since place
  obtain ⟨history, at_place, listed⟩ := h.history_of here
  rw [Ledger.scan_eq_filter response (h.scannable here knows), firstShown, here, Option.getD_some]
  refine List.filter_congr fun event member => ?_
  rw [decide_eq_decide]
  refine and_congr_right fun concerns => ?_
  constructor
  · intro new earlier before inside
    exact new ((knows _).mpr ⟨earlier, before, event, inside, concerns, rfl⟩)
  · intro never known
    obtain ⟨_, before, other, inside, _, same⟩ := (knows _).mp known
    obtain ⟨past, rfl, prior⟩ := h.earlier at_place before
    rw [listed] at member
    have here := mem_of_mem_newestFirst member
    have eq := h.eq_of_id_eq (List.mem_of_getElem? at_place) prior inside here same
    exact never _ before (eq ▸ inside)

theorem nodup_firstShown (h : GrowingFeed cap histories responses) (since : Instant) (place : Nat) :
    (firstShown since responses place).Nodup := by
  rw [firstShown]
  cases here : responses[place]? with
  | none => exact .nil
  | some response =>
      obtain ⟨history, at_place, rfl⟩ := h.history_of here
      have distinct := h.distinct_of (List.mem_of_getElem? at_place)
      exact (distinct.imp fun ne same => ne (congrArg _ same)).filter _

end GrowingFeed

end RolloutWatch
