import RolloutWatch.Proofs.Settings.Reading
import RolloutWatch.Settings.File

/-!
# Where settings come from

Settings come from a text, from the file at a path within a directory, or from whatever
file a directory has for them. In the end each of these sources is the reading of one
text, if there is one. `Holds` says which text it is, and the lemmas below reduce the
outcome to what is made of that text.
-/

namespace RolloutWatch.Settings

variable {text : String} {s : Settings} {error : SettingsError} {flaw : SettingsFlaw}
  {fault : SettingsFault}

theorem validate_eq_ok_iff {t : Settings} : s.validate = .ok t ↔ s.flaw? = none ∧ t = s := by
  unfold validate
  split
  · next flawed => simp [flawed]
  · next flawless => simp [flawless, eq_comm]

theorem validate_eq_error_iff :
    s.validate = .error error ↔ ∃ flaw, s.flaw? = some flaw ∧ error = .invalid flaw := by
  unfold validate
  split
  · next flawed => simp [flawed, eq_comm]
  · next flawless => simp [flawless]

theorem ofYaml_eq_ok_iff :
    ofYaml text = .ok s ↔ ofDocument (.ofText text) = .ok s ∧ s.flaw? = none := by
  unfold ofYaml
  split
  · next bad => simp [bad]
  · next t read =>
      rw [read, validate_eq_ok_iff]
      constructor
      · rintro ⟨flawless, rfl⟩
        exact ⟨rfl, flawless⟩
      · rintro ⟨same, flawless⟩
        cases same
        exact ⟨flawless, rfl⟩

/-- A text is refused as a whole if it is read as settings with a flaw. -/
theorem ofYaml_eq_invalid_iff :
    ofYaml text = .error (.invalid flaw) ↔
      ∃ s, ofDocument (.ofText text) = .ok s ∧ s.flaw? = some flaw := by
  unfold ofYaml
  split
  · next bad => simp [bad]
  · next t read => simp [read, validate_eq_error_iff]

theorem ofYaml_eq_unread_iff :
    ofYaml text = .error (.unread fault) ↔ ofDocument (.ofText text) = .error fault := by
  unfold ofYaml
  split
  · next bad => simp [bad]
  · next t read => simp [read, validate_eq_error_iff]

/-- A name under which settings are looked for is one step of a path. -/
theorem splitOn_of_mem_fileNames {name : String} (known : name ∈ fileNames) :
    name.splitOn "/" = [name] := by
  simp only [fileNames, List.mem_cons, List.not_mem_nil, or_false] at known
  obtain rfl | rfl := known
  all_goals
    rw [String.splitOn, if_neg (by decide)]
    -- No character of the name is a slash.
    repeat rw [String.splitOnAux, if_neg (by decide +kernel), if_neg (by decide +kernel)]
    rw [String.splitOnAux, if_pos (by decide +kernel)]
    decide +kernel

/-- Where settings come from. -/
inductive Source where
  | text (text : String)
  | file (d : Directory) (path : String)
  | directory (d : Directory)

namespace Source

/-- What comes of a source. -/
def outcome : Source → Except LoadError Settings
  | .text text => (ofYaml text).mapError .settings
  | .file d path => load d path
  | .directory d => (discover d).1

/-- The text that a source comes down to. -/
inductive Holds : Source → String → Prop where
  | text (text : String) : Holds (.text text) text
  | file {d : Directory} {path text : String} (read : d.readText path = .ok text) :
      Holds (.file d path) text
  | directory {d : Directory} {name text : String}
      (first : (fileNames.find? fun name => (d.entries.lookup name).isSome) = some name)
      (read : d.readText name = .ok text) :
      Holds (.directory d) text

theorem load_of_readText {d : Directory} {path : String} (read : d.readText path = .ok text) :
    load d path = (ofYaml text).mapError .settings := by
  simp only [load, read]
  cases ofYaml text <;> rfl

theorem Holds.outcome_eq {source : Source} (holds : source.Holds text) :
    source.outcome = (ofYaml text).mapError .settings := by
  cases holds with
  | text => rfl
  | file read => exact load_of_readText read
  | directory first read =>
      rw [outcome, discover, first]
      exact load_of_readText read

/-- Where there is no text, the outcome says so. -/
theorem holds_or_outcome_eq (source : Source) :
    (∃ text, source.Holds text) ∨ (∃ fault, source.outcome = .error (.unreadable fault)) ∨
      ∃ path, source.outcome = .error (.noFile path) := by
  have file (d : Directory) (path : String) :
      (∃ text, d.readText path = .ok text) ∨ ∃ fault, load d path = .error (.unreadable fault) := by
    cases read : d.readText path with
    | ok text => exact .inl ⟨text, rfl⟩
    | error fault => exact .inr ⟨fault, by rw [load, read]⟩
  cases source with
  | text text => exact .inl ⟨text, .text text⟩
  | file d path =>
      obtain ⟨text, read⟩ | unread := file d path
      · exact .inl ⟨text, .file read⟩
      · exact .inr (.inl unread)
  | directory d =>
      cases first : fileNames.find? fun name => (d.entries.lookup name).isSome with
      | none => exact .inr (.inr ⟨d.path, by rw [outcome, discover, first]⟩)
      | some name =>
          obtain ⟨text, read⟩ | ⟨fault, unread⟩ := file d name
          · exact .inl ⟨text, .directory first read⟩
          · exact .inr (.inl ⟨fault, by rw [outcome, discover, first]; exact unread⟩)

theorem mapError_settings_inj {x y : Except SettingsError Settings}
    (same : x.mapError LoadError.settings = y.mapError .settings) : x = y := by
  cases x with
  | error e =>
      cases y with
      | error e' =>
          cases same
          rfl
      | ok t => cases same
  | ok s =>
      cases y with
      | error e => cases same
      | ok t =>
          cases same
          rfl

/-- The settings or the fault of a text come of a source exactly if they are made of the text that
the source holds. -/
theorem outcome_eq_iff {source : Source} (made : Except SettingsError Settings) :
    source.outcome = made.mapError .settings ↔
      ∃ text, source.Holds text ∧ ofYaml text = made := by
  constructor
  · intro came
    obtain ⟨text, holds⟩ | ⟨fault, none⟩ | ⟨path, none⟩ := holds_or_outcome_eq source
    · rw [holds.outcome_eq] at came
      exact ⟨text, holds, mapError_settings_inj came⟩
    all_goals
      rw [none] at came
      cases made <;> cases came
  · rintro ⟨text, holds, rfl⟩
    exact holds.outcome_eq

/-- What the readers of the fields refuse is told as a fault of reading, and where their reading
breaks off, so does that of the source. -/
theorem outcome_eq_unread_iff {source : Source} (own : ∀ f, fault ≠ .document f) :
    source.outcome = .error (.settings (.unread fault)) ↔
      ∃ text draft field key value, source.Holds text ∧
        Comes (.ofText text) draft field key value ∧
        Refuses (.ofText text) key field value fault := by
  refine (outcome_eq_iff (.error (.unread fault))).trans ?_
  constructor
  · rintro ⟨text, holds, made⟩
    obtain ⟨draft, field, key, value, comes, refuses⟩ :=
      (ofDocument_eq_error_iff own).mp (ofYaml_eq_unread_iff.mp made)
    exact ⟨text, draft, field, key, value, holds, comes, refuses⟩
  · rintro ⟨text, draft, field, key, value, holds, comes, refuses⟩
    have failed := (ofDocument_eq_error_iff own).mpr ⟨draft, field, key, value, comes, refuses⟩
    exact ⟨text, holds, ofYaml_eq_unread_iff.mpr failed⟩

end Source

end RolloutWatch.Settings
