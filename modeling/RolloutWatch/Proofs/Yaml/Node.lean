import RolloutWatch.Proofs.Fallible
import RolloutWatch.Yaml.Fault

/-!
# Documents as trees

The content of a document without references and tags is a tree. Written out, a scalar is
one part, and a collection is what it holds between the two marks of its kind. `Writes`
says that a text is nothing but one such tree, and the lemmas below say what the readers
of a document make of the parts of a tree.
-/

namespace RolloutWatch.Yaml

/-- A value without references and tags. -/
inductive Node where
  | scalar (text : String) (style : ScalarStyle)
  | sequence (items : List Node)
  | mapping (pairs : List (Node × Node))

namespace Node

mutual

/-- The parts of a value in the order of the text. -/
def parts : Node → List Part
  | .scalar text style => [.scalar { text := text.toList, style }]
  | .sequence items => .sequenceStart :: (partsOfItems items ++ [.sequenceEnd])
  | .mapping pairs => .mappingStart :: (partsOfPairs pairs ++ [.mappingEnd])

def partsOfItems : List Node → List Part
  | [] => []
  | item :: items => item.parts ++ partsOfItems items

def partsOfPairs : List (Node × Node) → List Part
  | [] => []
  | (key, value) :: pairs => key.parts ++ (value.parts ++ partsOfPairs pairs)

end

/-- The text of a scalar. -/
def text? : Node → Option String
  | .scalar text _ => some text
  | _ => none

end Node

/-- An entry of a mapping with a scalar for its key. -/
structure Entry where
  key : String
  style : ScalarStyle := .plain
  value : Node

namespace Entry

def pair (e : Entry) : Node × Node :=
  (.scalar e.key e.style, e.value)

/-- The key of an entry as a part. -/
def keyPart (e : Entry) : Part :=
  .scalar { text := e.key.toList, style := e.style }

/-- The parts of entries, one behind the other. -/
def parts : List Entry → List Part
  | [] => []
  | e :: entries => e.keyPart :: (e.value.parts ++ parts entries)

end Entry

/-- The mapping with the given entries. -/
def Node.ofEntries (entries : List Entry) : Node :=
  .mapping (entries.map Entry.pair)

theorem Node.parts_ofEntries (entries : List Entry) :
    (ofEntries entries).parts = .mappingStart :: (Entry.parts entries ++ [.mappingEnd]) := by
  have pairs : partsOfPairs (entries.map Entry.pair) = Entry.parts entries := by
    induction entries with
    | nil => rfl
    | cons e entries ih => exact congrArg (fun rest => e.keyPart :: (e.value.parts ++ rest)) ih
  rw [ofEntries, Node.parts, pairs]

/-- A part of a value without references and tags. -/
def Part.IsPlain : Part → Prop
  | absent => False
  | reference _ => False
  | scalar value => value.tag = none
  | _ => True

instance (part : Part) : Decidable part.IsPlain :=
  match part with
  | .absent | .reference _ => isFalse id
  | .scalar value => inferInstanceAs (Decidable (value.tag = none))
  | .sequenceStart | .sequenceEnd | .mappingStart | .mappingEnd => isTrue trivial

mutual

theorem Node.isPlain_of_mem_parts {part : Part} :
    ∀ {n : Node}, part ∈ n.parts → part.IsPlain
  | .scalar text style, member => by
      obtain rfl := List.mem_singleton.mp member
      rfl
  | .sequence items, member => by
      simp only [parts, List.mem_cons, List.mem_append, List.not_mem_nil, or_false] at member
      obtain rfl | inside | rfl := member
      · trivial
      · exact isPlain_of_mem_partsOfItems inside
      · trivial
  | .mapping pairs, member => by
      simp only [parts, List.mem_cons, List.mem_append, List.not_mem_nil, or_false] at member
      obtain rfl | inside | rfl := member
      · trivial
      · exact isPlain_of_mem_partsOfPairs inside
      · trivial

theorem Node.isPlain_of_mem_partsOfItems {part : Part} :
    ∀ {items : List Node}, part ∈ partsOfItems items → part.IsPlain
  | item :: items, member => by
      obtain first | later := List.mem_append.mp member
      · exact isPlain_of_mem_parts first
      · exact isPlain_of_mem_partsOfItems later

theorem Node.isPlain_of_mem_partsOfPairs {part : Part} :
    ∀ {pairs : List (Node × Node)}, part ∈ partsOfPairs pairs → part.IsPlain
  | (key, value) :: pairs, member => by
      simp only [partsOfPairs, List.mem_append] at member
      obtain inKey | inValue | later := member
      · exact isPlain_of_mem_parts inKey
      · exact isPlain_of_mem_parts inValue
      · exact isPlain_of_mem_partsOfPairs later

end

theorem Part.word_eq_ok_iff {part : Part} {path : Path} {expected word : String} :
    part.word path expected = .ok word ↔ ∃ value, part = .scalar value ∧ value.word = word := by
  cases part <;> simp [Part.word]

theorem Part.count_eq_ok_iff {part : Part} {path : Path} {expected : String} {n : Nat} :
    part.count path expected = .ok n ↔ ∃ value, part = .scalar value ∧ value.count? = some n := by
  cases part with
  | scalar value =>
      simp only [Part.count, Part.scalar.injEq, exists_eq_left']
      split <;> simp_all
  | _ => simp [Part.count]

/-- Without a tag, only a plain scalar is read as a number. -/
theorem Scalar.count?_eq_some_iff {text : List Char} {style : ScalarStyle} {n : Nat} :
    Scalar.count? { text, style } = some n ↔
      style = .plain ∧ natural? text = some n ∧ n ≤ 18446744073709551615 := by
  unfold Scalar.count?
  cases natural? text with
  | none => simp
  | some m =>
      cases style with
      | plain =>
          simp only [BEq.rfl, Bool.true_or, Bool.true_and, decide_eq_true_eq, true_and,
            Option.ite_none_right_eq_some, Option.some.injEq]
          omega
      | _ => simp

section First

variable {n : Node} {d : Document} {part : Part} {value : Scalar} {rest after : List Part}

/-- Only a scalar begins with the part of a scalar. -/
theorem Node.eq_scalar_of_parts (begins : n.parts ++ rest = .scalar value :: after) :
    n = .scalar value.word value.style ∧ value.tag = none ∧ after = rest := by
  cases n with
  | scalar text style =>
      cases begins
      exact ⟨by rw [Scalar.word, String.ofList_toList], rfl, rfl⟩
  | sequence | mapping => cases begins

/-- A value does not begin with a reference. -/
theorem Node.head_of_parts (begins : n.parts ++ rest = part :: after) : d.head part = part := by
  cases n <;> cases begins <;> rfl

end First

/-- A text is one document, the content of which is the given value. -/
structure Writes (text : String) (root : Node) : Prop where
  parts : (Document.ofText text).parts = root.parts
  complete : (Document.ofText text).complete = true
  alone : (Document.ofText text).followed = false

instance (text : String) (root : Node) : Decidable (Writes text root) :=
  decidable_of_iff
    ((Document.ofText text).parts = root.parts ∧ (Document.ofText text).complete = true ∧
      (Document.ofText text).followed = false)
    ⟨fun ⟨parts, complete, alone⟩ => ⟨parts, complete, alone⟩,
      fun writes => ⟨writes.parts, writes.complete, writes.alone⟩⟩

namespace Document

variable {d : Document} {key : Option String} {index : Nat} {items : List Node} {n : Node}
  {words : List String} {rest after : List Part}

/-- The items of a sequence are read as texts if all of them are scalars. -/
theorem readWords_eq_ok_iff :
    d.readWords key index (Node.partsOfItems items ++ .sequenceEnd :: rest) = .ok (words, after) ↔
      items.map Node.text? = words.map some ∧ after = rest := by
  induction items generalizing index words with
  | nil =>
      rw [Node.partsOfItems, List.nil_append, readWords]
      constructor
      · rintro ⟨⟩
        exact ⟨rfl, rfl⟩
      · rintro ⟨none, rfl⟩
        rw [List.map_eq_nil_iff.mp none.symm]
  | cons item items ih =>
      cases item with
      | scalar text style =>
          have step : d.readWords key index
              (Node.partsOfItems (.scalar text style :: items) ++ .sequenceEnd :: rest) =
                (d.readWords key (index + 1)
                  (Node.partsOfItems items ++ .sequenceEnd :: rest) >>= fun read =>
                    .ok (text :: read.1, read.2)) := by
            simp only [Node.partsOfItems, Node.parts, List.cons_append, List.nil_append]
            rw [readWords]
            · simp [head, resolve, Part.word, Scalar.word, bind, Except.bind, pure, Except.pure]
            · intro same
              cases same
          rw [step, bind_eq_ok]
          constructor
          · rintro ⟨⟨others, behind⟩, read, same⟩
            cases same
            obtain ⟨meant, rfl⟩ := ih.mp read
            exact ⟨congrArg (some text :: ·) meant, rfl⟩
          · rintro ⟨meant, rfl⟩
            cases words with
            | nil => cases meant
            | cons word others =>
                obtain ⟨first, later⟩ := List.cons_eq_cons.mp meant
                cases first
                exact ⟨(others, after), ih.mpr ⟨later, rfl⟩, rfl⟩
      | sequence | mapping =>
          constructor
          · intro read
            simp only [Node.partsOfItems, Node.parts, List.cons_append] at read
            rw [readWords] at read
            · cases read
            · intro same
              cases same
          · rintro ⟨meant, _⟩
            cases words <;> cases meant

/-- What is read as a sequence of texts is one, or nothing is written in its place. -/
theorem readSequence_eq_ok_iff :
    d.readSequence key (n.parts ++ rest) = .ok (words, after) ↔
      ((∃ items, n = .sequence items ∧ items.map Node.text? = words.map some) ∨
        n = .scalar "" .plain ∧ words = []) ∧ after = rest := by
  cases n with
  | scalar text style =>
      have written : Scalar.isUnwritten { text := text.toList, style } = true ↔
          Node.scalar text style = .scalar "" .plain := by
        simp [Scalar.isUnwritten, and_comm]
      simp only [Node.parts, List.cons_append, List.nil_append, readSequence, resolve]
      split
      · next unwritten =>
          simp [written.mp unwritten, eq_comm]
      · next other =>
          simp [mt written.mpr other]
  | sequence items =>
      have step : d.readSequence key ((Node.sequence items).parts ++ rest) =
          (d.readWords key 0 (Node.partsOfItems items ++ .sequenceEnd :: rest) >>= fun read =>
            .ok (read.1, read.2)) := by
        simp [Node.parts, readSequence, resolve, pure, Except.pure]
      rw [step, bind_eq_ok]
      simp [readWords_eq_ok_iff]
  | mapping pairs => simp [Node.parts, readSequence, resolve]

end Document

end RolloutWatch.Yaml
