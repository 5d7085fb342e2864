import RolloutWatch.Proofs.Settings.Guards
import RolloutWatch.Proofs.Yaml.Natural
import RolloutWatch.Proofs.Yaml.Nesting

/-!
# The order of entries

The entries of a document are read in their order, with an eye on what has been read
before, and the first fault ends the reading. What comes of them can be said without an
order: the keys are different from each other, and every entry writes a value of its field.
`Fills` follows the reading, `fills_iff` says the same of the entries as a whole.
-/

namespace RolloutWatch.Settings

/-- A field with a value. -/
inductive Setting where
  | interval (d : Duration)
  | keywords (keywords : Keywords)
  | capacity (n : Nat)

def Setting.field : Setting → Field
  | interval _ => .fetchInterval
  | keywords _ => .failureKeywords
  | capacity _ => .listenerCapacity

/-- What a value in a document means as the value of a field: a text is a duration, a sequence of
texts that are not empty is a list of keywords, and a plain number is a capacity. -/
inductive Means : Yaml.Node → Setting → Prop where
  | interval {text : String} {style : Yaml.ScalarStyle} {d : Duration}
      (meant : Duration.parse text = .ok d) : Means (.scalar text style) (.interval d)
  | keywords {items : List Yaml.Node} {keywords : Keywords}
      (meant : items.map Yaml.Node.text? = keywords.toList.map some)
      (inhabited : "" ∉ keywords.toList) : Means (.sequence items) (.keywords keywords)
  | capacity {text : String} {n : Nat} (meant : Yaml.natural? text.toList = some n)
      (positive : 1 ≤ n) (fits : n ≤ 18446744073709551615) :
      Means (.scalar text .plain) (.capacity n)

/-- A value means one thing at most for a field. -/
theorem Means.unique {n : Yaml.Node} {s t : Setting} (left : Means n s) (right : Means n t)
    (same : s.field = t.field) : s = t := by
  cases left with
  | interval meant =>
      cases right with
      | interval other => rw [Except.ok.inj (meant.symm.trans other)]
      | capacity => cases same
  | keywords meant =>
      cases right with
      | keywords other =>
          have words := (List.map_inj_right fun _ _ => Option.some.inj).mp (meant.symm.trans other)
          obtain ⟨first, rest⟩ := List.cons_eq_cons.mp words
          exact congrArg _ (Keywords.ext first rest)
  | capacity meant =>
      cases right with
      | interval => cases same
      | capacity other => rw [Option.some.inj (meant.symm.trans other)]

/-- A plain scalar means a capacity if it writes the number, which has to fit into 64 bits and must
not be zero. -/
theorem means_capacity_iff {text : String} {n : Nat} :
    Means (.scalar text .plain) (.capacity n) ↔
      1 ≤ n ∧ n ≤ 18446744073709551615 ∧
        ∃ unsigned, (text.toList = unsigned ∨ text.toList = '+' :: unsigned) ∧
          (unsigned = Nat.toDigits 10 n ∨ Yaml.basedNumeral? unsigned = some n) := by
  rw [← Yaml.natural?_eq_some_iff]
  constructor
  · rintro ⟨⟩
    exact ⟨‹_›, ‹_›, ‹_›⟩
  · rintro ⟨positive, fits, meant⟩
    exact .capacity meant positive fits

namespace Field

theorem name_inj {f g : Field} : f.name = g.name ↔ f = g := by
  cases f <;> cases g <;> decide

theorem ofName?_eq_some_iff {name : String} {field : Field} :
    ofName? name = some field ↔ name = field.name := by
  constructor
  · intro known
    unfold ofName? at known
    have found := List.find?_some known
    exact (eq_of_beq found).symm
  · rintro rfl
    cases field <;> rfl

end Field

/-! ### Settings, field by field -/

/-- The setting of a field. -/
def setting (s : Settings) : Field → Setting
  | .fetchInterval => .interval s.fetchInterval
  | .failureKeywords => .keywords s.failureKeywords
  | .listenerCapacity => .capacity s.listenerCapacity

@[simp] theorem field_setting (s : Settings) (field : Field) : (s.setting field).field = field := by
  cases field <;> rfl

theorem ext_setting {s t : Settings} (same : ∀ field, s.setting field = t.setting field) :
    s = t := by
  have interval := same .fetchInterval
  have keywords := same .failureKeywords
  have capacity := same .listenerCapacity
  simp only [setting, Setting.interval.injEq, Setting.keywords.injEq,
    Setting.capacity.injEq] at interval keywords capacity
  exact Settings.ext interval keywords capacity

namespace Draft

/-- The setting of a field, if it has been read. -/
def setting? (draft : Draft) : Field → Option Setting
  | .fetchInterval => draft.fetchInterval.map .interval
  | .failureKeywords => draft.failureKeywords.map .keywords
  | .listenerCapacity => draft.listenerCapacity.map .capacity

def put (draft : Draft) : Setting → Draft
  | .interval d => { draft with fetchInterval := some d }
  | .keywords keywords => { draft with failureKeywords := some keywords }
  | .capacity n => { draft with listenerCapacity := some n }

theorem setting?_put (draft : Draft) (s : Setting) (field : Field) :
    (draft.put s).setting? field = if field = s.field then some s else draft.setting? field := by
  cases s <;> cases field <;> rfl

theorem setting?_put_self (draft : Draft) (s : Setting) :
    (draft.put s).setting? s.field = some s := by
  rw [setting?_put, if_pos rfl]

theorem setting?_put_of_ne (draft : Draft) {s : Setting} {field : Field} (other : field ≠ s.field) :
    (draft.put s).setting? field = draft.setting? field := by
  rw [setting?_put, if_neg other]

@[simp] theorem setting?_empty (field : Field) : ({} : Draft).setting? field = none := by
  cases field <;> rfl

theorem ext_setting? {a b : Draft} (same : ∀ field, a.setting? field = b.setting? field) :
    a = b := by
  have interval := same .fetchInterval
  have keywords := same .failureKeywords
  have capacity := same .listenerCapacity
  obtain ⟨i, k, c⟩ := a
  obtain ⟨i', k', c'⟩ := b
  obtain rfl := Option.map_injective (fun _ _ => Setting.interval.inj) interval
  obtain rfl := Option.map_injective (fun _ _ => Setting.keywords.inj) keywords
  obtain rfl := Option.map_injective (fun _ _ => Setting.capacity.inj) capacity
  rfl

theorem isRead_eq_false_iff {draft : Draft} {field : Field} :
    field.isRead draft = false ↔ draft.setting? field = none := by
  cases field <;> simp [Field.isRead, setting?]

end Draft

theorem setting_ofDraft (draft : Draft) (field : Field) :
    (ofDraft draft).setting field = (draft.setting? field).getD (default.setting field) := by
  obtain ⟨interval, keywords, capacity⟩ := draft
  cases field with
  | fetchInterval => cases interval <;> rfl
  | failureKeywords => cases keywords <;> rfl
  | listenerCapacity => cases capacity <;> rfl

/-! ### Reading in order -/

section Order

variable {d : Yaml.Document} {draft final : Draft} {key : Option String} {field : Field}
  {n : Yaml.Node} {entries : List Yaml.Entry} {value rest after tail : List Yaml.Part}

/-- The value of a field is read if it means one. -/
theorem readsValue_iff :
    ReadsValue d draft key field (n.parts ++ rest) final after ↔
      ∃ s : Setting, s.field = field ∧ Means n s ∧ final = draft.put s ∧ after = rest := by
  constructor
  · intro read
    generalize same : n.parts ++ rest = value at read
    cases read with
    | interval written meant =>
        rw [Yaml.Node.head_of_parts same] at written
        obtain ⟨value, rfl, rfl⟩ := Yaml.Part.word_eq_ok_iff.mp written
        obtain ⟨rfl, _, rfl⟩ := Yaml.Node.eq_scalar_of_parts same
        exact ⟨_, rfl, .interval meant, rfl, rfl⟩
    | keywords written inhabited meant =>
        rw [← same, Yaml.Document.readSequence_eq_ok_iff] at written
        obtain ⟨⟨items, rfl, texts⟩ | ⟨_, none⟩, rfl⟩ := written
        · subst meant
          exact ⟨_, rfl, .keywords texts inhabited, rfl, rfl⟩
        · cases meant.symm.trans none
    | capacity written positive =>
        rw [Yaml.Node.head_of_parts same] at written
        obtain ⟨⟨text, style, tag⟩, rfl, counted⟩ := Yaml.Part.count_eq_ok_iff.mp written
        obtain ⟨rfl, rfl, rfl⟩ := Yaml.Node.eq_scalar_of_parts same
        obtain ⟨rfl, meant, fits⟩ := Yaml.Scalar.count?_eq_some_iff.mp counted
        exact ⟨_, rfl, .capacity (by simpa [Yaml.Scalar.word] using meant)
          (Nat.pos_of_ne_zero positive) fits, rfl, rfl⟩
  · rintro ⟨s, rfl, means, rfl, rfl⟩
    cases means with
    | interval meant =>
        exact .interval (Yaml.Part.word_eq_ok_iff.mpr ⟨_, rfl, String.ofList_toList⟩) meant
    | keywords meant inhabited =>
        exact .keywords (Yaml.Document.readSequence_eq_ok_iff.mpr ⟨.inl ⟨_, rfl, meant⟩, rfl⟩)
          inhabited rfl
    | capacity meant positive fits =>
        have counted := Yaml.Scalar.count?_eq_some_iff.mpr ⟨rfl, meant, fits⟩
        exact .capacity (Yaml.Part.count_eq_ok_iff.mpr ⟨_, rfl, counted⟩)
          (Nat.ne_of_gt positive)

theorem readKey_keyPart (e : Yaml.Entry) : d.readKey e.keyPart = .ok (e.key, some e.key) := by
  simp [Yaml.Document.readKey, Yaml.Entry.keyPart, Yaml.Document.head, Yaml.Document.resolve,
    Yaml.Part.word, Yaml.Scalar.word, bind, Except.bind, pure, Except.pure]

/-- In front of the entries that are left stands the first of them. -/
theorem atEntry_iff :
    AtEntry d draft (Yaml.Entry.parts entries ++ .mappingEnd :: tail) field key value ↔
      ∃ e others, entries = e :: others ∧ e.key = field.name ∧ key = some e.key ∧
        draft.setting? field = none ∧
        value = e.value.parts ++ (Yaml.Entry.parts others ++ .mappingEnd :: tail) := by
  constructor
  · intro entry
    cases entries with
    | nil =>
        cases entry with
        | intro named => exact absurd rfl (ne_mappingEnd_of_readKey named)
    | cons e others =>
        cases entry with
        | intro named known fresh =>
            rw [readKey_keyPart] at named
            cases named
            refine ⟨e, others, rfl, Field.ofName?_eq_some_iff.mp known, rfl,
              Draft.isRead_eq_false_iff.mp fresh, List.append_assoc ..⟩
  · rintro ⟨e, others, rfl, known, rfl, fresh, rfl⟩
    rw [Yaml.Entry.parts, List.cons_append, List.append_assoc]
    exact .intro (readKey_keyPart e) (Field.ofName?_eq_some_iff.mpr known)
      (Draft.isRead_eq_false_iff.mpr fresh)

/-- Entries fill in what is left open of a draft, one after the other. -/
inductive Fills : Draft → List Yaml.Entry → Draft → Prop where
  | nil (draft : Draft) : Fills draft [] draft
  | cons {draft final : Draft} {e : Yaml.Entry} {entries : List Yaml.Entry} {s : Setting}
      (key : e.key = s.field.name) (means : Means e.value s) (fresh : draft.setting? s.field = none)
      (later : Fills (draft.put s) entries final) : Fills draft (e :: entries) final

/-- Reading comes as far as the entries fill in the draft. -/
theorem reads_iff :
    Reads d draft (Yaml.Entry.parts entries ++ .mappingEnd :: tail) final rest ↔
      ∃ front back, entries = front ++ back ∧ Fills draft front final ∧
        rest = Yaml.Entry.parts back ++ .mappingEnd :: tail := by
  constructor
  · intro reads
    generalize same : Yaml.Entry.parts entries ++ .mappingEnd :: tail = parts at reads
    induction reads generalizing entries with
    | refl draft => exact ⟨[], entries, rfl, .nil draft, same.symm⟩
    | step entry read later ih =>
        subst same
        obtain ⟨e, others, rfl, key, rfl, fresh, rfl⟩ := atEntry_iff.mp entry
        obtain ⟨s, rfl, means, rfl, rfl⟩ := readsValue_iff.mp read
        obtain ⟨front, back, rfl, fills, left⟩ := ih rfl
        exact ⟨e :: front, back, rfl, .cons key means fresh fills, left⟩
  · rintro ⟨front, back, rfl, fills, rfl⟩
    induction fills with
    | nil => exact .refl ..
    | cons key means fresh _ ih =>
        exact .step (atEntry_iff.mpr ⟨_, _, rfl, key, rfl, fresh, rfl⟩)
          (readsValue_iff.mpr ⟨_, rfl, means, rfl, rfl⟩) ih

/-- To the end of the mapping, reading comes if all entries fill in the draft. -/
theorem reads_to_end_iff :
    (∃ rest, Reads d draft (Yaml.Entry.parts entries ++ .mappingEnd :: tail) final
      (.mappingEnd :: rest)) ↔ Fills draft entries final := by
  constructor
  · rintro ⟨rest, reads⟩
    obtain ⟨front, back, rfl, fills, left⟩ := reads_iff.mp reads
    cases back with
    | nil => rwa [List.append_nil]
    | cons => cases left
  · intro fills
    exact ⟨tail, reads_iff.mpr ⟨entries, [], (List.append_nil _).symm, fills, rfl⟩⟩

end Order

end RolloutWatch.Settings
