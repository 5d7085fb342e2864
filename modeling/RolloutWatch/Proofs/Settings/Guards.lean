import Mathlib.Algebra.Group.Nat.Defs
import RolloutWatch.Proofs.Settings.Source
import RolloutWatch.Watcher.Plan

/-!
# Two guards of the settings

Settings are looked at twice: each field when its value is read, and all of them together
once they are complete. The readers leave only one thing for the second look to find, an
interval of zero, and the settings that pass both are what a plan is made of as they stand.
-/

namespace RolloutWatch.Settings

section Readers

variable {d : Yaml.Document} {draft final : Draft} {key : Option String} {field : Field}
  {parts value rest : List Yaml.Part} {s : Settings} {flaw : SettingsFlaw}

/-- A count that is read from a part fits into 64 bits. -/
theorem count_lt {part : Yaml.Part} {path : Yaml.Path} {expected : String} {n : Nat}
    (written : part.count path expected = .ok n) : n < 2 ^ 64 := by
  unfold Yaml.Part.count at written
  split at written
  · next scalar =>
      split at written
      · next m counted =>
          cases written
          unfold Yaml.Scalar.count? at counted
          split at counted
          · dsimp only at counted
            split at counted
            · next held =>
                cases counted
                simp only [Bool.and_eq_true, decide_eq_true_eq] at held
                omega
            · cases counted
          · cases counted
      · cases written
  · cases written

/-- What the readers have made sure of in the fields read so far. -/
structure Draft.Checked (draft : Draft) : Prop where
  capacity : ∀ n, draft.listenerCapacity = some n → 1 ≤ n ∧ n < 2 ^ 64
  keywords : ∀ keywords, draft.failureKeywords = some keywords → "" ∉ keywords.toList

theorem ReadsValue.checked (read : ReadsValue d draft key field value final rest)
    (checked : draft.Checked) : final.Checked := by
  cases read with
  | interval => exact ⟨checked.capacity, checked.keywords⟩
  | keywords _ inhabited meant =>
      refine ⟨checked.capacity, fun keywords same => ?_⟩
      cases same
      rwa [← meant]
  | capacity written positive =>
      refine ⟨fun n same => ?_, checked.keywords⟩
      cases same
      exact ⟨Nat.pos_of_ne_zero positive, count_lt written⟩

theorem Reads.checked (reads : Reads d draft parts final rest) (checked : draft.Checked) :
    final.Checked := by
  induction reads with
  | refl => exact checked
  | step _ read _ ih => exact ih (read.checked checked)

/-- What the readers make sure of. -/
structure Checked (s : Settings) : Prop where
  positive : 1 ≤ s.listenerCapacity
  fits : s.listenerCapacity < 2 ^ 64
  keywords : "" ∉ s.failureKeywords.toList

/-- The defaults of the fields that are left out pass what the readers check. -/
theorem checked_ofDraft (checked : draft.Checked) : (ofDraft draft).Checked := by
  have capacity : 1 ≤ draft.listenerCapacity.getD 1 ∧ draft.listenerCapacity.getD 1 < 2 ^ 64 := by
    cases given : draft.listenerCapacity with
    | none => decide
    | some n => exact checked.capacity n given
  have keywords : "" ∉ (draft.failureKeywords.getD .default).toList := by
    cases given : draft.failureKeywords with
    | none => decide
    | some keywords => exact checked.keywords keywords given
  exact ⟨capacity.1, capacity.2, keywords⟩

theorem checked_of_ofDocument (read : ofDocument d = .ok s) : s.Checked := by
  obtain ⟨_, draft, _, _, reads, _, rfl⟩ := ofDocument_eq_ok_iff.mp read
  exact checked_ofDraft (reads.checked ⟨nofun, nofun⟩)

/-- Settings have no flaw if none of the three is there. -/
theorem flaw?_eq_none_iff :
    s.flaw? = none ↔
      s.fetchInterval ≠ .zero ∧ s.listenerCapacity ≠ 0 ∧ "" ∉ s.failureKeywords.toList := by
  unfold flaw?
  split
  · next zero => simp [zero]
  · split
    · next zero => simp [zero]
    · split <;> simp_all

/-- And they have one if any of them is. -/
theorem exists_flaw_iff :
    (∃ flaw, s.flaw? = some flaw) ↔
      s.fetchInterval = .zero ∨ s.listenerCapacity = 0 ∨ "" ∈ s.failureKeywords.toList := by
  have flawed : (∃ flaw, s.flaw? = some flaw) ↔ s.flaw? ≠ none := Option.ne_none_iff_exists'.symm
  rw [flawed, ne_eq, flaw?_eq_none_iff]
  grind

/-- After the readers, only the interval can be at fault. -/
theorem Checked.flaw?_eq_some_iff (checked : s.Checked) :
    s.flaw? = some flaw ↔ flaw = .zeroInterval ∧ s.fetchInterval = .zero := by
  have positive : s.listenerCapacity ≠ 0 := Nat.ne_of_gt checked.positive
  by_cases zero : s.fetchInterval = .zero
  · simp [flaw?, zero, eq_comm]
  · simp [zero, flaw?_eq_none_iff.mpr ⟨zero, positive, checked.keywords⟩]

end Readers

/-- The two guards agree. Settings that come of a source are good in all respects, they pass the
second look once more, and a plan takes their capacity as it is. What the second look finds in the
settings of a text is an interval of zero, and nothing else, and what one of the readers refuses is
told as a fault of reading. Settings of any origin fail the second look exactly for one of the
three flaws. -/
theorem guards_agree :
    (∀ (source : Source) (s : Settings), source.outcome = .ok s →
      s.fetchInterval ≠ .zero ∧ 1 ≤ s.listenerCapacity ∧ s.failureKeywords.toList ≠ [] ∧
        "" ∉ s.failureKeywords.toList ∧ s.validate = .ok s ∧
        ∀ target, (Plan.ofSettings target s).capacity = s.listenerCapacity) ∧
    (∀ (source : Source) (flaw : SettingsFlaw),
      source.outcome = .error (.settings (.invalid flaw)) ↔
        flaw = .zeroInterval ∧ ∃ text s, source.Holds text ∧ ofDocument (.ofText text) = .ok s ∧
          s.fetchInterval = .zero) ∧
    (∀ (source : Source) (fault : SettingsFault), (∀ f, fault ≠ .document f) →
      (source.outcome = .error (.settings (.unread fault)) ↔
        ∃ text draft field key value, source.Holds text ∧
          Comes (.ofText text) draft field key value ∧
          Refuses (.ofText text) key field value fault)) ∧
    (∀ (text : String) (s : Settings), ofDocument (.ofText text) = .ok s →
      s.listenerCapacity ≠ 0 ∧ s.failureKeywords.toList ≠ [] ∧ "" ∉ s.failureKeywords.toList ∧
        ∀ flaw, s.validate = .error (.invalid flaw) → flaw = .zeroInterval) ∧
    (∀ s : Settings, (∃ error, s.validate = .error error) ↔
      s.fetchInterval = .zero ∨ s.listenerCapacity = 0 ∨ "" ∈ s.failureKeywords.toList) := by
  refine ⟨?_, ?_, ?_, ?_, ?_⟩
  · intro source s came
    obtain ⟨text, _, made⟩ := (Source.outcome_eq_iff (.ok s)).mp came
    obtain ⟨read, flawless⟩ := ofYaml_eq_ok_iff.mp made
    have checked := checked_of_ofDocument read
    obtain ⟨interval, _, _⟩ := flaw?_eq_none_iff.mp flawless
    refine ⟨interval, checked.positive, nofun, checked.keywords,
      validate_eq_ok_iff.mpr ⟨flawless, rfl⟩, fun target => ?_⟩
    exact Nat.max_eq_right checked.positive
  · intro source flaw
    refine (Source.outcome_eq_iff (.error (.invalid flaw))).trans ?_
    constructor
    · rintro ⟨text, holds, made⟩
      obtain ⟨s, read, flawed⟩ := ofYaml_eq_invalid_iff.mp made
      obtain ⟨rfl, zero⟩ := (checked_of_ofDocument read).flaw?_eq_some_iff.mp flawed
      exact ⟨rfl, text, s, holds, read, zero⟩
    · rintro ⟨rfl, text, s, holds, read, zero⟩
      have flawed := (checked_of_ofDocument read).flaw?_eq_some_iff.mpr ⟨rfl, zero⟩
      exact ⟨text, holds, ofYaml_eq_invalid_iff.mpr ⟨s, read, flawed⟩⟩
  · intro source fault own
    exact Source.outcome_eq_unread_iff own
  · intro text s read
    have checked := checked_of_ofDocument read
    refine ⟨Nat.ne_of_gt checked.positive, nofun, checked.keywords, fun flaw failed => ?_⟩
    obtain ⟨_, flawed, same⟩ := validate_eq_error_iff.mp failed
    cases same
    exact (checked.flaw?_eq_some_iff.mp flawed).1
  · intro s
    rw [← exists_flaw_iff]
    constructor
    · rintro ⟨error, failed⟩
      obtain ⟨flaw, flawed, _⟩ := validate_eq_error_iff.mp failed
      exact ⟨flaw, flawed⟩
    · rintro ⟨flaw, flawed⟩
      exact ⟨.invalid flaw, validate_eq_error_iff.mpr ⟨flaw, flawed, rfl⟩⟩

/-- A directory whose settings are taken, a text with an interval of zero, and one in which an empty
keyword stands in front of an interval of zero. -/
theorem guards_agree_threeSources :
    (Source.outcome (.directory ⟨"/etc/rollout",
        [("rollout-stream.yaml", .file "listener_capacity: 3\n".toUTF8)]⟩) =
          .ok { listenerCapacity := 3 } ∧
      ∀ target, (Plan.ofSettings target { listenerCapacity := 3 }).capacity = 3) ∧
    (Source.outcome (.text "fetch_interval: 0s") = .error (.settings (.invalid .zeroInterval)) ∧
      ∃ text s, Source.Holds (.text "fetch_interval: 0s") text ∧
        ofDocument (.ofText text) = .ok s ∧ s.fetchInterval = .zero) ∧
    (Source.outcome (.text "failure_keywords: [fail, '']\nfetch_interval: 0s") =
        .error (.settings (.unread (.emptyKeyword 1))) ∧
      ∃ text draft field key value,
        Source.Holds (.text "failure_keywords: [fail, '']\nfetch_interval: 0s") text ∧
          Comes (.ofText text) draft field key value ∧
          Refuses (.ofText text) key field value (.emptyKeyword 1)) ∧
    (ofDocument (.ofText "fetch_interval: 0s") = .ok { fetchInterval := .zero } ∧
      "" ∉ Keywords.default.toList) ∧
    ∃ error, validate { listenerCapacity := 0 } = .error error := by
  obtain ⟨taken, invalid, refused, checked, validated⟩ := guards_agree
  have accepted : Source.outcome (.directory ⟨"/etc/rollout",
      [("rollout-stream.yaml", .file "listener_capacity: 3\n".toUTF8)]⟩) =
        .ok { listenerCapacity := 3 } := by
    have read : Directory.readText ⟨"/etc/rollout",
        [("rollout-stream.yaml", .file "listener_capacity: 3\n".toUTF8)]⟩ "rollout-stream.yaml" =
          .ok "listener_capacity: 3\n" := by
      rw [Directory.readText, splitOn_of_mem_fileNames (by decide)]
      decide +kernel
    exact (Source.outcome_eq_iff (.ok _)).mpr ⟨_, .directory (by decide) read, by decide +kernel⟩
  have flawed : Source.outcome (.text "fetch_interval: 0s") =
      .error (.settings (.invalid .zeroInterval)) := by decide +kernel
  have unread : Source.outcome (.text "failure_keywords: [fail, '']\nfetch_interval: 0s") =
      .error (.settings (.unread (.emptyKeyword 1))) := by decide +kernel
  have read : ofDocument (.ofText "fetch_interval: 0s") = .ok { fetchInterval := .zero } := by
    decide +kernel
  obtain ⟨_, _, _, _, _, kept⟩ := taken _ _ accepted
  exact ⟨⟨accepted, kept⟩, ⟨flawed, ((invalid _ _).mp flawed).2⟩,
    ⟨unread, (refused _ (.emptyKeyword 1) nofun).mp unread⟩, ⟨read, (checked _ _ read).2.2.1⟩,
    (validated _).mpr (.inr (.inl rfl))⟩

end RolloutWatch.Settings
