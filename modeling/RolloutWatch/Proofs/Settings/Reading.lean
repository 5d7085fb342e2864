import RolloutWatch.Proofs.Fallible
import RolloutWatch.Settings.Text

/-!
# Reading settings, entry by entry

The entries of a document are read one after the other. `AtEntry` says that the parts
begin with an entry whose key is in order, `ReadsValue` what a value has to be to be
read, and `Reads` how far the reading comes in a number of entries. It ends at the end of
the mapping or where it is `Stuck`, which lists everything that may be wrong. Each of
these describes exactly what the reader does. What a document can have wrong of its own is
left to the readers of the document, and `Refuses` says which values are refused behind them.
-/

namespace RolloutWatch

namespace Settings

section Lift

variable {α β : Type} {x : Except Yaml.Fault α} {f : α → Except SettingsFault β}
  {fault : SettingsFault}

theorem lift_eq_ok {a : α} : lift x = .ok a ↔ x = .ok a := by
  cases x <;> simp [lift]

/-- What a document has wrong is a fault of the document. -/
theorem lift_eq_error : lift x = .error fault ↔ ∃ f, x = .error f ∧ fault = .document f := by
  cases x <;> simp [lift, eq_comm]

theorem lift_bind_eq_ok {b : β} : (lift x >>= f) = .ok b ↔ ∃ a, x = .ok a ∧ f a = .ok b := by
  simp only [bind_eq_ok, lift_eq_ok]

/-- Any other fault comes from what follows the reading of the document. -/
theorem lift_bind_eq_error (own : ∀ f, fault ≠ .document f) :
    (lift x >>= f) = .error fault ↔ ∃ a, x = .ok a ∧ f a = .error fault := by
  have other : lift x ≠ .error fault := by
    intro bad
    obtain ⟨f, _, same⟩ := lift_eq_error.mp bad
    exact own f same
  simp only [bind_eq_error, other, false_or, lift_eq_ok]

end Lift

section Value

variable {d : Yaml.Document} {draft final : Draft} {key : Option String} {field : Field}
  {value rest : List Yaml.Part} {fault : SettingsFault}

/-- The value of a field is read from the parts, and `final` is the draft with it. -/
inductive ReadsValue (d : Yaml.Document) (draft : Draft) (key : Option String) :
    Field → List Yaml.Part → Draft → List Yaml.Part → Prop where
  | interval {part : Yaml.Part} {rest : List Yaml.Part} {word : String} {interval : Duration}
      (written : (d.head part).word (.field key) "a duration" = .ok word)
      (meant : Duration.parse word = .ok interval) :
      ReadsValue d draft key .fetchInterval (part :: rest)
        { draft with fetchInterval := some interval } rest
  | keywords {value rest : List Yaml.Part} {words : List String} {keywords : Keywords}
      (written : d.readSequence key value = .ok (words, rest))
      (inhabited : "" ∉ words)
      (meant : words = keywords.toList) :
      ReadsValue d draft key .failureKeywords value
        { draft with failureKeywords := some keywords } rest
  | capacity {part : Yaml.Part} {rest : List Yaml.Part} {n : Nat}
      (written : (d.head part).count (.field key) "usize" = .ok n)
      (positive : n ≠ 0) :
      ReadsValue d draft key .listenerCapacity (part :: rest)
        { draft with listenerCapacity := some n } rest

theorem intervalOf_eq_ok {path : Yaml.Path} {word : String} {interval : Duration} :
    intervalOf path word = .ok interval ↔ Duration.parse word = .ok interval := by
  unfold intervalOf
  split <;> simp_all

theorem findIdx?_isEmpty_eq_none {words : List String} :
    words.findIdx? (·.isEmpty) = none ↔ "" ∉ words := by
  rw [List.findIdx?_eq_none_iff]
  constructor
  · intro full empty
    cases full "" empty
  · intro absent word member
    rw [Bool.eq_false_iff, ne_eq, String.isEmpty_iff]
    rintro rfl
    exact absent member

theorem keywordsOf_eq_ok {words : List String} {keywords : Keywords} :
    keywordsOf words = .ok keywords ↔ "" ∉ words ∧ words = keywords.toList := by
  unfold keywordsOf
  cases empty : words.findIdx? (·.isEmpty) with
  | some index =>
      have present : ¬"" ∉ words := by
        rw [← findIdx?_isEmpty_eq_none, empty]
        nofun
      simp [present]
  | none =>
      have absent : "" ∉ words := findIdx?_isEmpty_eq_none.mp empty
      cases words with
      | nil => simp [Keywords.ofList?, Keywords.toList]
      | cons first rest =>
          simp only [Keywords.ofList?, Except.ok.injEq]
          constructor
          · rintro rfl
            exact ⟨absent, rfl⟩
          · rintro ⟨_, same⟩
            cases keywords
            cases same
            rfl

theorem capacityOf_eq_ok {n capacity : Nat} :
    capacityOf n = .ok capacity ↔ n ≠ 0 ∧ n = capacity := by
  unfold capacityOf
  split <;> simp_all

/-- What is read as the value of a field. -/
theorem readValue_eq_ok_iff :
    readValue d draft key field value = .ok (final, rest) ↔
      ReadsValue d draft key field value final rest := by
  constructor
  · intro read
    unfold readValue at read
    split at read
    · obtain ⟨⟨words, after⟩, written, read⟩ := lift_bind_eq_ok.mp read
      obtain ⟨keywords, meant, read⟩ := bind_eq_ok.mp read
      cases read
      obtain ⟨inhabited, meant⟩ := keywordsOf_eq_ok.mp meant
      exact .keywords written inhabited meant
    · cases read
    · obtain ⟨word, written, read⟩ := lift_bind_eq_ok.mp read
      obtain ⟨interval, meant, read⟩ := bind_eq_ok.mp read
      cases read
      exact .interval written (intervalOf_eq_ok.mp meant)
    · obtain ⟨n, written, read⟩ := lift_bind_eq_ok.mp read
      obtain ⟨capacity, meant, read⟩ := bind_eq_ok.mp read
      cases read
      obtain ⟨positive, rfl⟩ := capacityOf_eq_ok.mp meant
      exact .capacity written positive
  · intro read
    cases read with
    | interval written meant =>
        apply lift_bind_eq_ok.mpr ⟨_, written, ?_⟩
        exact bind_eq_ok.mpr ⟨_, intervalOf_eq_ok.mpr meant, rfl⟩
    | keywords written inhabited meant =>
        apply lift_bind_eq_ok.mpr ⟨_, written, ?_⟩
        exact bind_eq_ok.mpr ⟨_, keywordsOf_eq_ok.mpr ⟨inhabited, meant⟩, rfl⟩
    | capacity written positive =>
        apply lift_bind_eq_ok.mpr ⟨_, written, ?_⟩
        exact bind_eq_ok.mpr ⟨_, capacityOf_eq_ok.mpr ⟨positive, rfl⟩, rfl⟩

/-- The value of a field can be made out in the document, and it is refused or the reading of it
breaks off. -/
inductive Refuses (d : Yaml.Document) (key : Option String) :
    Field → List Yaml.Part → SettingsFault → Prop where
  | interval {part : Yaml.Part} {rest : List Yaml.Part} {word : String}
      (written : (d.head part).word (.field key) "a duration" = .ok word)
      (broken : Duration.parse word = .error .breakdown) :
      Refuses d key .fetchInterval (part :: rest) .breakdown
  | noKeyword {value rest : List Yaml.Part}
      (written : d.readSequence key value = .ok ([], rest)) :
      Refuses d key .failureKeywords value .noKeyword
  | emptyKeyword {value rest : List Yaml.Part} {before after : List String}
      (written : d.readSequence key value = .ok (before ++ "" :: after, rest))
      (first : "" ∉ before) :
      Refuses d key .failureKeywords value (.emptyKeyword before.length)
  | capacity {part : Yaml.Part} {rest : List Yaml.Part}
      (written : (d.head part).count (.field key) "usize" = .ok 0) :
      Refuses d key .listenerCapacity (part :: rest) .zeroCapacity

theorem intervalOf_eq_breakdown {path : Yaml.Path} {word : String} :
    intervalOf path word = .error .breakdown ↔ Duration.parse word = .error .breakdown := by
  unfold intervalOf
  split <;> simp_all

/-- Besides breaking off, an interval can only be a fault of the document. -/
theorem eq_breakdown_of_intervalOf {path : Yaml.Path} {word : String}
    (bad : intervalOf path word = .error fault) (own : ∀ f, fault ≠ .document f) :
    fault = .breakdown := by
  unfold intervalOf at bad
  split at bad
  · cases bad
  · cases bad
    exact absurd rfl (own _)
  · cases bad
    rfl

theorem keywordsOf_of_empty {before after : List String} (first : "" ∉ before) :
    keywordsOf (before ++ "" :: after) = .error (.emptyKeyword before.length) := by
  have found : (before ++ "" :: after).findIdx? (·.isEmpty) = some before.length := by
    rw [List.findIdx?_append, findIdx?_isEmpty_eq_none.mpr first, List.findIdx?_cons]
    simp
  rw [keywordsOf, found]

theorem keywordsOf_eq_error {words : List String} (bad : keywordsOf words = .error fault) :
    (words = [] ∧ fault = .noKeyword) ∨
      ∃ before after, words = before ++ "" :: after ∧ "" ∉ before ∧
        fault = .emptyKeyword before.length := by
  by_cases empty : "" ∈ words
  · obtain ⟨before, after, rfl, first⟩ := List.eq_append_cons_of_mem empty
    rw [keywordsOf_of_empty first] at bad
    cases bad
    exact .inr ⟨before, after, rfl, first, rfl⟩
  · rw [keywordsOf, findIdx?_isEmpty_eq_none.mpr empty] at bad
    cases words with
    | nil =>
        cases bad
        exact .inl ⟨rfl, rfl⟩
    | cons first rest => cases bad

theorem capacityOf_eq_error {n : Nat} :
    capacityOf n = .error fault ↔ n = 0 ∧ fault = .zeroCapacity := by
  unfold capacityOf
  split <;> simp_all [eq_comm]

/-- What is refused as the value of a field. -/
theorem readValue_eq_error_iff (own : ∀ f, fault ≠ .document f) :
    readValue d draft key field value = .error fault ↔ Refuses d key field value fault := by
  constructor
  · intro bad
    unfold readValue at bad
    split at bad
    · obtain ⟨⟨words, rest⟩, written, bad⟩ := (lift_bind_eq_error own).mp bad
      obtain ⟨rfl, rfl⟩ | ⟨before, after, rfl, first, rfl⟩ :=
        keywordsOf_eq_error (bind_pure_eq_error.mp bad)
      · exact .noKeyword written
      · exact .emptyKeyword written first
    · cases bad
      exact absurd rfl (own _)
    · obtain ⟨word, written, bad⟩ := (lift_bind_eq_error own).mp bad
      have refused := bind_pure_eq_error.mp bad
      obtain rfl := eq_breakdown_of_intervalOf refused own
      exact .interval written (intervalOf_eq_breakdown.mp refused)
    · obtain ⟨n, written, bad⟩ := (lift_bind_eq_error own).mp bad
      obtain ⟨rfl, rfl⟩ := capacityOf_eq_error.mp (bind_pure_eq_error.mp bad)
      exact .capacity written
  · intro refuses
    cases refuses with
    | interval written broken =>
        apply (lift_bind_eq_error own).mpr ⟨_, written, ?_⟩
        exact bind_pure_eq_error.mpr (intervalOf_eq_breakdown.mpr broken)
    | noKeyword written =>
        apply (lift_bind_eq_error own).mpr ⟨_, written, ?_⟩
        exact bind_pure_eq_error.mpr rfl
    | emptyKeyword written first =>
        apply (lift_bind_eq_error own).mpr ⟨_, written, ?_⟩
        exact bind_pure_eq_error.mpr (keywordsOf_of_empty first)
    | capacity written =>
        apply (lift_bind_eq_error own).mpr ⟨_, written, ?_⟩
        exact bind_pure_eq_error.mpr (capacityOf_eq_error.mpr ⟨rfl, rfl⟩)

end Value

section Entries

variable {d : Yaml.Document} {draft middle final : Draft} {key : Option String} {field : Field}
  {parts value between rest : List Yaml.Part} {fault : SettingsFault}

/-- The parts begin with an entry of a field that has not been read, and `value` begins with the
value of it. -/
inductive AtEntry (d : Yaml.Document) (draft : Draft) :
    List Yaml.Part → Field → Option String → List Yaml.Part → Prop where
  | intro {part : Yaml.Part} {value : List Yaml.Part} {name : String} {key : Option String}
      {field : Field}
      (named : d.readKey part = .ok (name, key))
      (known : Field.ofName? name = some field)
      (fresh : field.isRead draft = false) :
      AtEntry d draft (part :: value) field key value

/-- Entries are read one after the other. -/
inductive Reads (d : Yaml.Document) :
    Draft → List Yaml.Part → Draft → List Yaml.Part → Prop where
  | refl (draft : Draft) (parts : List Yaml.Part) : Reads d draft parts draft parts
  | step {draft middle final : Draft} {field : Field} {key : Option String}
      {parts value between rest : List Yaml.Part}
      (entry : AtEntry d draft parts field key value)
      (read : ReadsValue d draft key field value middle between)
      (later : Reads d middle between final rest) :
      Reads d draft parts final rest

/-- There is neither an entry to be read nor the end of the mapping. -/
inductive Stuck (d : Yaml.Document) (draft : Draft) : List Yaml.Part → SettingsFault → Prop where
  | cut : Stuck d draft [] (.document .malformed)
  | unnamed {part : Yaml.Part} {rest : List Yaml.Part} {fault : Yaml.Fault}
      (inner : part ≠ .mappingEnd)
      (bad : d.readKey part = .error fault) :
      Stuck d draft (part :: rest) (.document fault)
  | unknown {part : Yaml.Part} {rest : List Yaml.Part} {name : String} {key : Option String}
      (named : d.readKey part = .ok (name, key))
      (foreign : Field.ofName? name = none) :
      Stuck d draft (part :: rest) (.document (.unknownField name (Field.all.map Field.name)))
  | repeated {part : Yaml.Part} {rest : List Yaml.Part} {name : String} {key : Option String}
      {field : Field}
      (named : d.readKey part = .ok (name, key))
      (known : Field.ofName? name = some field)
      (read : field.isRead draft = true) :
      Stuck d draft (part :: rest) (.document (.duplicateField name))
  | value {parts value : List Yaml.Part} {field : Field} {key : Option String}
      {fault : SettingsFault}
      (entry : AtEntry d draft parts field key value)
      (bad : readValue d draft key field value = .error fault) :
      Stuck d draft parts fault

/-- The end of a mapping is no key. -/
theorem ne_mappingEnd_of_readKey {part : Yaml.Part} {name : String}
    (named : d.readKey part = .ok (name, key)) : part ≠ .mappingEnd := by
  rintro rfl
  cases named

/-- Behind the key of an entry comes its value, and then the rest. -/
theorem readEntries_of_entry (entry : AtEntry d draft parts field key value) :
    readEntries d draft parts =
      readValue d draft key field value >>= fun read => readEntries d read.1 read.2 := by
  cases entry with
  | intro named known fresh =>
      rw [readEntries]
      · simp only [named, known, fresh, Bool.false_eq_true, if_false]
        split
        · next bad => rw [bad]; rfl
        · next read => rw [read]; rfl
      · exact ne_mappingEnd_of_readKey named

theorem Reads.readEntries_eq (reads : Reads d draft parts final rest) :
    readEntries d draft parts = readEntries d final rest := by
  induction reads with
  | refl => rfl
  | step entry read _ ih =>
      rw [readEntries_of_entry entry, readValue_eq_ok_iff.mpr read]
      exact ih

theorem Stuck.readEntries_eq (stuck : Stuck d draft parts fault) :
    readEntries d draft parts = .error fault := by
  cases stuck with
  | cut => rw [readEntries]
  | unnamed inner bad =>
      rw [readEntries]
      · simp only [bad]
      · exact inner
  | unknown named foreign =>
      rw [readEntries]
      · simp only [named, foreign]
      · exact ne_mappingEnd_of_readKey named
  | repeated named known read =>
      rw [readEntries]
      · simp only [named, known, read, if_true]
      · exact ne_mappingEnd_of_readKey named
  | value entry bad =>
      rw [readEntries_of_entry entry, bad]
      rfl

/-- The reading of entries ends in one of two ways. -/
theorem reads_to_end_or_stuck (draft : Draft) (parts : List Yaml.Part) :
    (∃ final rest, Reads d draft parts final (.mappingEnd :: rest)) ∨
      ∃ final rest fault, Reads d draft parts final rest ∧ Stuck d final rest fault := by
  induction draft, parts using readEntries.induct d with
  | case1 draft => exact .inr ⟨draft, [], _, .refl .., .cut⟩
  | case2 draft tail => exact .inl ⟨draft, tail, .refl ..⟩
  | case3 draft part rest inner fault bad =>
      exact .inr ⟨draft, _, _, .refl .., .unnamed inner bad⟩
  | case4 draft part rest inner name key named foreign =>
      exact .inr ⟨draft, _, _, .refl .., .unknown named foreign⟩
  | case5 draft part rest inner name key named field known read =>
      exact .inr ⟨draft, _, _, .refl .., .repeated named known read⟩
  | case6 draft part rest inner name key named field known unread fault bad =>
      exact .inr ⟨draft, _, _, .refl ..,
        .value (.intro named known (Bool.eq_false_iff.mpr unread)) bad⟩
  | case7 draft part rest inner name key named field known unread middle after read _ ih =>
      have entry : AtEntry d draft (part :: rest) field key rest :=
        .intro named known (Bool.eq_false_iff.mpr unread)
      have first := readValue_eq_ok_iff.mp read
      obtain ⟨final, tail, reads⟩ | ⟨final, tail, fault, reads, stuck⟩ := ih
      · exact .inl ⟨final, tail, .step entry first reads⟩
      · exact .inr ⟨final, tail, fault, .step entry first reads, stuck⟩

/-- The entries give a draft if they can be read up to the end of the mapping. -/
theorem readEntries_eq_ok_iff :
    readEntries d draft parts = .ok final ↔
      ∃ rest, Reads d draft parts final (.mappingEnd :: rest) := by
  constructor
  · intro read
    obtain ⟨last, rest, reads⟩ | ⟨last, rest, fault, reads, stuck⟩ :=
      reads_to_end_or_stuck (d := d) draft parts
    · rw [reads.readEntries_eq, readEntries] at read
      cases read
      exact ⟨rest, reads⟩
    · rw [reads.readEntries_eq, stuck.readEntries_eq] at read
      cases read
  · rintro ⟨rest, reads⟩
    rw [reads.readEntries_eq, readEntries]

/-- They give a fault if the reading gets stuck at it. -/
theorem readEntries_eq_error_iff :
    readEntries d draft parts = .error fault ↔
      ∃ final rest, Reads d draft parts final rest ∧ Stuck d final rest fault := by
  constructor
  · intro read
    obtain ⟨last, rest, reads⟩ | ⟨last, rest, fault, reads, stuck⟩ :=
      reads_to_end_or_stuck (d := d) draft parts
    · rw [reads.readEntries_eq, readEntries] at read
      cases read
    · rw [reads.readEntries_eq, stuck.readEntries_eq] at read
      cases read
      exact ⟨last, rest, reads, stuck⟩
  · rintro ⟨last, rest, reads, stuck⟩
    rw [reads.readEntries_eq, stuck.readEntries_eq]

end Entries

section Document

variable {d : Yaml.Document} {draft : Draft} {key : Option String} {field : Field}
  {value : List Yaml.Part} {fault : SettingsFault} {settings : Settings}

/-- The reading of a document comes to the value of a field, with a draft of the fields before. -/
def Comes (d : Yaml.Document) (draft : Draft) (field : Field) (key : Option String)
    (value : List Yaml.Part) : Prop :=
  ∃ begun parts, d.entries "struct StreamerConfig" = .ok begun ∧ Reads d {} begun draft parts ∧
    AtEntry d draft parts field key value

/-- A document gives settings if its entries can be read to the end and nothing is wrong
around them. -/
theorem ofDocument_eq_ok_iff :
    ofDocument d = .ok settings ↔
      ∃ begun draft rest, d.entries "struct StreamerConfig" = .ok begun ∧
        Reads d {} begun draft (.mappingEnd :: rest) ∧ d.finish = .ok () ∧
        settings = ofDraft draft := by
  constructor
  · intro read
    obtain ⟨begun, found, read⟩ := lift_bind_eq_ok.mp read
    obtain ⟨draft, entries, read⟩ := bind_eq_ok.mp read
    obtain ⟨_, finished, read⟩ := lift_bind_eq_ok.mp read
    cases read
    obtain ⟨rest, reads⟩ := readEntries_eq_ok_iff.mp entries
    exact ⟨begun, draft, rest, found, reads, finished, rfl⟩
  · rintro ⟨begun, draft, rest, found, reads, finished, rfl⟩
    apply lift_bind_eq_ok.mpr ⟨begun, found, ?_⟩
    apply bind_eq_ok.mpr ⟨draft, readEntries_eq_ok_iff.mpr ⟨rest, reads⟩, ?_⟩
    exact lift_bind_eq_ok.mpr ⟨(), finished, rfl⟩

/-- Settings are refused, or their reading breaks off, at a value that is refused. Anything else is
a fault of the document. -/
theorem ofDocument_eq_error_iff (own : ∀ f, fault ≠ .document f) :
    ofDocument d = .error fault ↔
      ∃ draft field key value, Comes d draft field key value ∧ Refuses d key field value fault := by
  constructor
  · intro failed
    obtain ⟨begun, found, failed⟩ := (lift_bind_eq_error own).mp failed
    obtain entries | ⟨_, _, failed⟩ := bind_eq_error.mp failed
    · obtain ⟨draft, parts, reads, stuck⟩ := readEntries_eq_error_iff.mp entries
      cases stuck with
      | value entry bad =>
          exact ⟨draft, _, _, _, ⟨begun, parts, found, reads, entry⟩,
            (readValue_eq_error_iff own).mp bad⟩
      | cut | unnamed | unknown | repeated => exact absurd rfl (own _)
    · obtain ⟨_, _, done⟩ := (lift_bind_eq_error own).mp failed
      cases done
  · rintro ⟨draft, field, key, value, ⟨begun, parts, found, reads, entry⟩, refuses⟩
    have bad : readValue d draft key field value = .error fault :=
      (readValue_eq_error_iff own).mpr refuses
    have stuck := readEntries_eq_error_iff.mpr ⟨draft, parts, reads, .value entry bad⟩
    exact (lift_bind_eq_error own).mpr ⟨begun, found, bind_eq_error.mpr (.inl stuck)⟩

end Document

end Settings

end RolloutWatch
