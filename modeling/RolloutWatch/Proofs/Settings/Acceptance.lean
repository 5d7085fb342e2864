import Mathlib.Data.List.Nodup
import RolloutWatch.Proofs.Settings.Entries

/-!
# Settings in any order

Which settings a document gives does not depend on the order of its entries. The keys have
to be different from each other, and every entry writes a value of its field; the other
fields have their defaults. `Gives` says so, and `fills_iff` reduces the reading of one
entry after the other to it. Only for the fault that ends the reading does it matter what
stands in front.
-/

namespace RolloutWatch.Settings

section Fill

variable {draft final : Draft} {e : Yaml.Entry} {entries : List Yaml.Entry} {field : Field}

/-- The final draft has what the entries write, and for the other fields what the draft has. No
field is written twice or filled in already. -/
structure Completes (draft : Draft) (entries : List Yaml.Entry) (final : Draft) : Prop where
  distinct : (entries.map Yaml.Entry.key).Nodup
  given : ∀ e ∈ entries, ∃ s : Setting, e.key = s.field.name ∧ Means e.value s ∧
    draft.setting? s.field = none ∧ final.setting? s.field = some s
  kept : ∀ field : Field, field.name ∉ entries.map Yaml.Entry.key →
    final.setting? field = draft.setting? field

theorem completes_nil_iff : Completes draft [] final ↔ final = draft := by
  constructor
  · intro completes
    exact Draft.ext_setting? fun field => completes.kept field List.not_mem_nil
  · rintro rfl
    exact ⟨.nil, nofun, fun _ _ => rfl⟩

/-- An entry is of another field than one that no entry writes. -/
theorem field_ne_of_not_mem_keys {s : Setting} (absent : field.name ∉ entries.map Yaml.Entry.key)
    (inside : e ∈ entries) (key : e.key = s.field.name) : s.field ≠ field := by
  rintro rfl
  exact absent (key ▸ List.mem_map_of_mem inside)

/-- The first entry fills in a field, and the others complete the draft with it. -/
theorem completes_cons_iff :
    Completes draft (e :: entries) final ↔
      ∃ s : Setting, e.key = s.field.name ∧ Means e.value s ∧ draft.setting? s.field = none ∧
        Completes (draft.put s) entries final := by
  constructor
  · rintro ⟨distinct, given, kept⟩
    obtain ⟨⟨s, key, means, fresh, filled⟩, given⟩ := List.forall_mem_cons.mp given
    obtain ⟨absent, distinct⟩ := List.nodup_cons.mp distinct
    rw [key] at absent
    refine ⟨s, key, means, fresh, distinct, fun other inside => ?_, fun field others => ?_⟩
    · obtain ⟨t, name, meant, unset, written⟩ := given other inside
      have apart := field_ne_of_not_mem_keys absent inside name
      exact ⟨t, name, meant, by rw [Draft.setting?_put_of_ne draft apart, unset], written⟩
    · by_cases same : field = s.field
      · rw [same, filled, Draft.setting?_put_self]
      · have first : field.name ≠ e.key := by
          rw [key]
          exact mt Field.name_inj.mp same
        rw [Draft.setting?_put_of_ne draft same]
        exact kept field (mt List.mem_cons.mp (not_or.mpr ⟨first, others⟩))
  · rintro ⟨s, key, means, fresh, distinct, given, kept⟩
    -- Another entry of the same field would have found it filled in.
    have absent : s.field.name ∉ entries.map Yaml.Entry.key := by
      intro member
      obtain ⟨other, inside, same⟩ := List.mem_map.mp member
      obtain ⟨t, name, _, unset, _⟩ := given other inside
      rw [← Field.name_inj.mp (same.symm.trans name), Draft.setting?_put_self] at unset
      cases unset
    refine ⟨List.nodup_cons.mpr ⟨key ▸ absent, distinct⟩, List.forall_mem_cons.mpr ⟨?_, ?_⟩, ?_⟩
    · exact ⟨s, key, means, fresh, by rw [kept _ absent, Draft.setting?_put_self]⟩
    · intro other inside
      obtain ⟨t, name, meant, unset, written⟩ := given other inside
      have apart := field_ne_of_not_mem_keys absent inside name
      rw [Draft.setting?_put_of_ne draft apart] at unset
      exact ⟨t, name, meant, unset, written⟩
    · intro field outside
      obtain ⟨first, others⟩ := not_or.mp (mt List.mem_cons.mpr outside)
      have apart : field ≠ s.field := fun same => first (by rw [same, key])
      rw [kept field others, Draft.setting?_put_of_ne draft apart]

/-- What the entries fill in one after the other can be said without their order. -/
theorem fills_iff : Fills draft entries final ↔ Completes draft entries final := by
  induction entries generalizing draft with
  | nil =>
      rw [completes_nil_iff]
      constructor
      · rintro ⟨⟩
        rfl
      · rintro rfl
        exact .nil _
  | cons e entries ih =>
      rw [completes_cons_iff]
      constructor
      · rintro (_ | ⟨key, means, fresh, later⟩)
        exact ⟨_, key, means, fresh, ih.mp later⟩
      · rintro ⟨s, key, means, fresh, completes⟩
        exact .cons key means fresh (ih.mpr completes)

/-- The fields that are filled in are those that are written. -/
theorem Fills.setting?_eq_none_iff (fills : Fills {} entries final) :
    final.setting? field = none ↔ field.name ∉ entries.map Yaml.Entry.key := by
  obtain ⟨_, given, kept⟩ := fills_iff.mp fills
  constructor
  · intro unset member
    obtain ⟨e, inside, name⟩ := List.mem_map.mp member
    obtain ⟨s, key, _, _, filled⟩ := given e inside
    rw [← Field.name_inj.mp (key.symm.trans name), filled] at unset
    cases unset
  · intro outside
    rw [kept field outside, Draft.setting?_empty]

/-- Every entry writes a value of its field, and no two of them have the same key. -/
structure Readable (entries : List Yaml.Entry) : Prop where
  distinct : (entries.map Yaml.Entry.key).Nodup
  meant : ∀ e ∈ entries, ∃ s : Setting, e.key = s.field.name ∧ Means e.value s

theorem exists_fills (readable : Readable entries)
    (fresh : ∀ field : Field, field.name ∈ entries.map Yaml.Entry.key →
      draft.setting? field = none) :
    ∃ final, Fills draft entries final := by
  obtain ⟨distinct, meant⟩ := readable
  induction entries generalizing draft with
  | nil => exact ⟨draft, .nil draft⟩
  | cons e entries ih =>
      obtain ⟨⟨s, key, means⟩, others⟩ := List.forall_mem_cons.mp meant
      obtain ⟨absent, distinct⟩ := List.nodup_cons.mp distinct
      have still : ∀ field : Field, field.name ∈ entries.map Yaml.Entry.key →
          (draft.put s).setting? field = none := by
        intro field member
        have apart : field ≠ s.field := fun same => absent (key ▸ same ▸ member)
        rw [Draft.setting?_put_of_ne draft apart, fresh field (List.mem_cons_of_mem _ member)]
      obtain ⟨final, later⟩ := ih still distinct others
      exact ⟨final, .cons key means (fresh _ (List.mem_cons.mpr (.inl key.symm))) later⟩

theorem exists_fills_iff : (∃ final, Fills {} entries final) ↔ Readable entries := by
  constructor
  · rintro ⟨final, fills⟩
    obtain ⟨distinct, given, _⟩ := fills_iff.mp fills
    refine ⟨distinct, fun e inside => ?_⟩
    obtain ⟨s, key, means, _⟩ := given e inside
    exact ⟨s, key, means⟩
  · intro readable
    exact exists_fills readable fun field _ => Draft.setting?_empty field

/-- The settings that entries give: what is written for the fields that are, and the defaults of the
others. -/
structure Gives (entries : List Yaml.Entry) (s : Settings) : Prop where
  distinct : (entries.map Yaml.Entry.key).Nodup
  given : ∀ e ∈ entries, ∃ field : Field, e.key = field.name ∧ Means e.value (s.setting field)
  others : ∀ field : Field, field.name ∉ entries.map Yaml.Entry.key →
    s.setting field = default.setting field

theorem Gives.perm {entries' : List Yaml.Entry} {s : Settings} (gives : Gives entries s)
    (perm : entries.Perm entries') : Gives entries' s where
  distinct := (perm.map _).nodup_iff.mp gives.distinct
  given := fun e inside => gives.given e (perm.mem_iff.mpr inside)
  others := fun field outside => gives.others field (mt (perm.map _).mem_iff.mp outside)

theorem Gives.readable {s : Settings} (gives : Gives entries s) : Readable entries where
  distinct := gives.distinct
  meant := by
    intro e inside
    obtain ⟨field, key, means⟩ := gives.given e inside
    exact ⟨s.setting field, by rw [field_setting, key], means⟩

theorem Fills.gives (fills : Fills {} entries final) : Gives entries (ofDraft final) := by
  obtain ⟨distinct, given, _⟩ := fills_iff.mp fills
  refine ⟨distinct, fun e inside => ?_, fun field outside => ?_⟩
  · obtain ⟨s, key, means, _, filled⟩ := given e inside
    refine ⟨s.field, key, ?_⟩
    rwa [setting_ofDraft, filled]
  · rw [setting_ofDraft, fills.setting?_eq_none_iff.mpr outside]
    rfl

/-- No other settings are given. -/
theorem Gives.unique {s t : Settings} (left : Gives entries s) (right : Gives entries t) :
    s = t := by
  refine ext_setting fun field => ?_
  by_cases written : field.name ∈ entries.map Yaml.Entry.key
  · obtain ⟨e, inside, name⟩ := List.mem_map.mp written
    have meant {s : Settings} (gives : Gives entries s) : Means e.value (s.setting field) := by
      obtain ⟨field', key, means⟩ := gives.given e inside
      rwa [Field.name_inj.mp (name.symm.trans key)]
    exact (meant left).unique (meant right) (by rw [field_setting, field_setting])
  · rw [left.others field written, right.others field written]

theorem gives_iff {s : Settings} :
    Gives entries s ↔ ∃ final, Fills {} entries final ∧ s = ofDraft final := by
  constructor
  · intro gives
    obtain ⟨final, fills⟩ := exists_fills_iff.mpr gives.readable
    exact ⟨final, fills, gives.unique fills.gives⟩
  · rintro ⟨final, fills, rfl⟩
    exact fills.gives

end Fill

section Text

variable {text : String} {entries : List Yaml.Entry} {s : Settings}

theorem entries_ofText (writes : Yaml.Writes text (.ofEntries entries)) (expected : String) :
    (Yaml.Document.ofText text).entries expected =
      .ok (Yaml.Entry.parts entries ++ [.mappingEnd]) := by
  rw [Yaml.Document.entries, writes.parts, Yaml.Node.parts_ofEntries]

theorem finish_ofText {root : Yaml.Node} (writes : Yaml.Writes text root) :
    (Yaml.Document.ofText text).finish = .ok () := by
  simp [Yaml.Document.finish, writes.complete, writes.alone]

theorem ofDocument_eq_ok_iff_gives (writes : Yaml.Writes text (.ofEntries entries)) :
    ofDocument (.ofText text) = .ok s ↔ Gives entries s := by
  rw [ofDocument_eq_ok_iff, gives_iff]
  constructor
  · rintro ⟨begun, draft, rest, found, reads, _, rfl⟩
    rw [entries_ofText writes] at found
    cases found
    exact ⟨draft, reads_to_end_iff.mp ⟨rest, reads⟩, rfl⟩
  · rintro ⟨draft, fills, rfl⟩
    obtain ⟨rest, reads⟩ := reads_to_end_iff.mpr fills
    exact ⟨_, draft, rest, entries_ofText writes _, reads, finish_ofText writes, rfl⟩

/-- The second look finds nothing but an interval of zero. -/
theorem ofYaml_eq_ok_iff_gives (writes : Yaml.Writes text (.ofEntries entries)) :
    ofYaml text = .ok s ↔ Gives entries s ∧ s.fetchInterval ≠ .zero := by
  rw [ofYaml_eq_ok_iff, flaw?_eq_none_iff, ← ofDocument_eq_ok_iff_gives writes]
  constructor
  · rintro ⟨read, interval, _⟩
    exact ⟨read, interval⟩
  · rintro ⟨read, interval⟩
    have checked := checked_of_ofDocument read
    exact ⟨read, interval, Nat.ne_of_gt checked.positive, checked.keywords⟩

/-- An interval of zero is given exactly if it is written. -/
theorem Gives.fetchInterval_eq_zero_iff (gives : Gives entries s) :
    s.fetchInterval = .zero ↔
      ∃ e ∈ entries, e.key = "fetch_interval" ∧ Means e.value (.interval .zero) := by
  constructor
  · intro zero
    by_cases written : Field.fetchInterval.name ∈ entries.map Yaml.Entry.key
    · obtain ⟨e, inside, name⟩ := List.mem_map.mp written
      obtain ⟨field, key, means⟩ := gives.given e inside
      obtain rfl := Field.name_inj.mp (name.symm.trans key)
      exact ⟨e, inside, name, by rwa [setting, zero] at means⟩
    · have other := gives.others _ written
      rw [setting, zero] at other
      exact absurd (Setting.interval.inj other) (by decide)
  · rintro ⟨e, inside, name, zero⟩
    obtain ⟨field, key, means⟩ := gives.given e inside
    obtain rfl : .fetchInterval = field := Field.name_inj.mp (name.symm.trans key)
    exact Setting.interval.inj (means.unique zero rfl)

/-- An empty keyword is reported if all entries in front can be read, and it is the first of its
list. -/
theorem ofDocument_eq_emptyKeyword_iff (writes : Yaml.Writes text (.ofEntries entries))
    {index : Nat} :
    ofDocument (.ofText text) = .error (.emptyKeyword index) ↔
      ∃ front e back items before after, entries = front ++ e :: back ∧ Readable front ∧
        e.key = "failure_keywords" ∧ e.key ∉ front.map Yaml.Entry.key ∧
        e.value = .sequence items ∧
        items.map Yaml.Node.text? = (before ++ "" :: after).map some ∧ "" ∉ before ∧
        index = before.length := by
  have own : ∀ f, SettingsFault.emptyKeyword index ≠ .document f := nofun
  rw [ofDocument_eq_error_iff own]
  constructor
  · rintro ⟨draft, field, key, value, ⟨begun, parts, found, reads, entry⟩, refuses⟩
    rw [entries_ofText writes] at found
    cases found
    obtain ⟨front, back, rfl, fills, rfl⟩ := reads_iff.mp reads
    obtain ⟨e, back, rfl, known, rfl, unset, rfl⟩ := atEntry_iff.mp entry
    generalize same : e.value.parts ++ _ = value at refuses
    cases refuses with
    | emptyKeyword written first =>
        rw [← same, Yaml.Document.readSequence_eq_ok_iff] at written
        obtain ⟨⟨items, sequence, texts⟩ | ⟨_, none⟩, _⟩ := written
        · exact ⟨front, e, back, items, _, _, rfl, exists_fills_iff.mp ⟨draft, fills⟩, known,
            known ▸ fills.setting?_eq_none_iff.mp unset, sequence, texts, first, rfl⟩
        · exact absurd none (List.append_ne_nil_of_right_ne_nil _ (List.cons_ne_nil _ _))
  · rintro ⟨front, e, back, items, before, after, rfl, readable, known, absent, sequence, texts,
      first, rfl⟩
    obtain ⟨draft, fills⟩ := exists_fills_iff.mpr readable
    have known : e.key = Field.failureKeywords.name := known
    have unset : draft.setting? .failureKeywords = none :=
      fills.setting?_eq_none_iff.mpr (known ▸ absent)
    refine ⟨draft, .failureKeywords, some e.key, _, ⟨_, _, entries_ofText writes _,
      reads_iff.mpr ⟨front, e :: back, rfl, fills, rfl⟩,
      atEntry_iff.mpr ⟨e, back, rfl, known, rfl, unset, rfl⟩⟩, ?_⟩
    exact .emptyKeyword
      (Yaml.Document.readSequence_eq_ok_iff.mpr ⟨.inl ⟨items, sequence, texts⟩, rfl⟩) first

end Text

/-- The order of the entries does not matter. A text with one complete document that is a mapping,
without references and tags, writes pairs of keys and values. Where the keys are scalars, it is
taken exactly if the keys are different from each other, every entry writes a value of its field,
and no interval of zero is written. The settings are the defaults with what is written, and so
they are the same for all orders of the entries. An empty keyword is told with its place in its
list, the first one if there are several, provided that everything in front of the list can be
read. -/
theorem entries_in_any_order :
    (∀ text, (Yaml.Document.ofText text).complete = true →
      (Yaml.Document.ofText text).followed = false →
      (∀ part ∈ (Yaml.Document.ofText text).parts, part.IsPlain) →
      (Yaml.Document.ofText text).parts.head? = some .mappingStart →
      ∃ pairs, Yaml.Writes text (.mapping pairs)) ∧
    ∀ text entries, Yaml.Writes text (.ofEntries entries) →
      ((∃ s, ofYaml text = .ok s) ↔
        (entries.map Yaml.Entry.key).Nodup ∧
        (∀ e ∈ entries, ∃ s : Setting, e.key = s.field.name ∧ Means e.value s) ∧
        ¬∃ e ∈ entries, e.key = "fetch_interval" ∧ Means e.value (.interval .zero)) ∧
      (∀ s, ofYaml text = .ok s ↔ Gives entries s ∧ s.fetchInterval ≠ .zero) ∧
      (∀ text' entries', Yaml.Writes text' (.ofEntries entries') → entries.Perm entries' →
        ∀ s, ofYaml text' = .ok s ↔ ofYaml text = .ok s) ∧
      ∀ index, ofYaml text = .error (.unread (.emptyKeyword index)) ↔
        ∃ front e back items before after, entries = front ++ e :: back ∧ Readable front ∧
          e.key = "failure_keywords" ∧ e.key ∉ front.map Yaml.Entry.key ∧
          e.value = .sequence items ∧
          items.map Yaml.Node.text? = (before ++ "" :: after).map some ∧ "" ∉ before ∧
          index = before.length := by
  refine ⟨?_, fun text entries writes => ⟨?_, ?_, ?_, ?_⟩⟩
  · intro text complete alone plain begins
    have inhabited : (Yaml.Document.ofText text).parts ≠ [] := by
      intro none
      rw [none] at begins
      cases begins
    obtain ⟨root, writes⟩ := Yaml.exists_writes_iff.mpr ⟨complete, alone, inhabited, plain⟩
    rw [writes.parts] at begins
    cases root with
    | mapping pairs => exact ⟨pairs, writes⟩
    | scalar | sequence => cases begins
  · constructor
    · rintro ⟨s, made⟩
      obtain ⟨gives, interval⟩ := (ofYaml_eq_ok_iff_gives writes).mp made
      exact ⟨gives.distinct, gives.readable.meant, mt gives.fetchInterval_eq_zero_iff.mpr interval⟩
    · rintro ⟨distinct, meant, nonzero⟩
      obtain ⟨draft, fills⟩ := exists_fills_iff.mpr ⟨distinct, meant⟩
      have interval := mt fills.gives.fetchInterval_eq_zero_iff.mp nonzero
      exact ⟨_, (ofYaml_eq_ok_iff_gives writes).mpr ⟨fills.gives, interval⟩⟩
  · exact fun s => ofYaml_eq_ok_iff_gives writes
  · intro text' entries' writes' perm s
    rw [ofYaml_eq_ok_iff_gives writes, ofYaml_eq_ok_iff_gives writes']
    constructor
    · rintro ⟨gives, interval⟩
      exact ⟨gives.perm perm.symm, interval⟩
    · rintro ⟨gives, interval⟩
      exact ⟨gives.perm perm, interval⟩
  · intro index
    rw [ofYaml_eq_unread_iff, ofDocument_eq_emptyKeyword_iff writes]

/-- An interval, a capacity in hexadecimal digits and a list with one keyword twice, in two orders, a
list with two empty keywords, and a mapping with a key that is no scalar. -/
theorem entries_in_any_order_fourTexts :
    (∃ interval capacity keywords : Yaml.Entry,
      Yaml.Writes
        "fetch_interval: 7s\nlistener_capacity: 0x1F\nfailure_keywords: [fail, 'no room', fail]"
        (.ofEntries [interval, capacity, keywords]) ∧
      Yaml.Writes
        "failure_keywords: [fail, 'no room', fail]\nfetch_interval: 7s\nlistener_capacity: 0x1F"
        (.ofEntries [keywords, interval, capacity]) ∧
      [interval, capacity, keywords].Perm [keywords, interval, capacity] ∧
      Means capacity.value (.capacity 31) ∧
      (∃ s, ofYaml
        "fetch_interval: 7s\nlistener_capacity: 0x1F\nfailure_keywords: [fail, 'no room', fail]" =
          .ok s) ∧
      ofYaml
        "failure_keywords: [fail, 'no room', fail]\nfetch_interval: 7s\nlistener_capacity: 0x1F" =
          .ok { fetchInterval := .ofSeconds 7, listenerCapacity := 31,
                failureKeywords := { first := "fail", rest := ["no room", "fail"] } }) ∧
    ofYaml "failure_keywords: [fail, '', fail, '']" = .error (.unread (.emptyKeyword 1)) ∧
    ∃ pairs, Yaml.Writes "{fetch_interval: 0s, [a]: b}" (.mapping pairs) := by
  obtain ⟨covers, order⟩ := entries_in_any_order
  have number : Means (.scalar "0x1F" .plain) (.capacity 31) :=
    means_capacity_iff.mpr ⟨by decide, by decide, "0x1F".toList, .inl rfl, .inr (by decide +kernel)⟩
  have entries : ∃ interval capacity keywords : Yaml.Entry,
      Yaml.Writes
        "fetch_interval: 7s\nlistener_capacity: 0x1F\nfailure_keywords: [fail, 'no room', fail]"
        (.ofEntries [interval, capacity, keywords]) ∧
      Yaml.Writes
        "failure_keywords: [fail, 'no room', fail]\nfetch_interval: 7s\nlistener_capacity: 0x1F"
        (.ofEntries [keywords, interval, capacity]) ∧
      Means capacity.value (.capacity 31) ∧
      Gives [interval, capacity, keywords]
        { fetchInterval := .ofSeconds 7, listenerCapacity := 31,
          failureKeywords := { first := "fail", rest := ["no room", "fail"] } } := by
    refine ⟨⟨"fetch_interval", .plain, .scalar "7s" .plain⟩,
      ⟨"listener_capacity", .plain, .scalar "0x1F" .plain⟩,
      ⟨"failure_keywords", .plain, .sequence [.scalar "fail" .plain,
        .scalar "no room" .singleQuoted, .scalar "fail" .plain]⟩,
      by decide +kernel, by decide +kernel, number, by decide, ?_, ?_⟩
    · refine List.forall_mem_cons.mpr ⟨⟨.fetchInterval, rfl, .interval (by decide +kernel)⟩, ?_⟩
      refine List.forall_mem_cons.mpr ⟨⟨.listenerCapacity, rfl, number⟩, ?_⟩
      exact List.forall_mem_singleton.mpr ⟨.failureKeywords, rfl, .keywords rfl (by decide)⟩
    · intro field other
      cases field with
      | listenerCapacity | fetchInterval | failureKeywords => exact absurd (by decide) other
  obtain ⟨interval, capacity, keywords, first, second, meant, gives⟩ := entries
  have third : Yaml.Writes "failure_keywords: [fail, '', fail, '']"
      (.ofEntries [⟨"failure_keywords", .plain, .sequence [.scalar "fail" .plain,
        .scalar "" .singleQuoted, .scalar "fail" .plain, .scalar "" .singleQuoted]⟩]) := by
    decide +kernel
  have whole : (Yaml.Document.ofText "{fetch_interval: 0s, [a]: b}").complete = true ∧
      (Yaml.Document.ofText "{fetch_interval: 0s, [a]: b}").followed = false ∧
      (∀ part ∈ (Yaml.Document.ofText "{fetch_interval: 0s, [a]: b}").parts, part.IsPlain) ∧
      (Yaml.Document.ofText "{fetch_interval: 0s, [a]: b}").parts.head? = some .mappingStart := by
    decide +kernel
  obtain ⟨accepts, taken, permuted, _⟩ := order _ _ first
  obtain ⟨_, _, _, told⟩ := order _ _ third
  obtain ⟨complete, alone, plain, begins⟩ := whole
  have moved : ([interval, capacity] ++ [keywords]).Perm ([keywords] ++ [interval, capacity]) :=
    List.perm_append_comm
  have made := (taken _).mpr ⟨gives, by decide⟩
  refine ⟨⟨interval, capacity, keywords, first, second, moved, meant,
    accepts.mpr (accepts.mp ⟨_, made⟩), (permuted _ _ second moved _).mpr made⟩, ?_,
    covers _ complete alone plain begins⟩
  exact (told 1).mpr ⟨[], _, [], _, ["fail"], ["fail", ""], rfl, ⟨.nil, nofun⟩, rfl,
    List.not_mem_nil, rfl, rfl, by decide, rfl⟩

end RolloutWatch.Settings
