import RolloutWatch.Proofs.Yaml.Node

/-!
# The nesting of a document

The reader of events is a machine with a stack, and nothing in its answers shows that the
marks of collections are paired. But each place on the stack knows what is still to come
before the place below it has its turn, and `Fits` says so of the whole stack. A step back
over one event keeps it, and so the parts of a complete document are those of one value.
-/

namespace RolloutWatch.Yaml

open Node (partsOfItems partsOfPairs)

/-- What is still to come at a place of the reader. -/
inductive Due where
  | node
  | items
  | pairs
  | value
  /-- The key or the value of a mapping of one entry, or its end, and then more items. -/
  | pairKey
  | pairValue
  | pairEnd
  | other
deriving DecidableEq

def Place.due : Place → Due
  | blockNode | documentContent => .node
  | blockSequence _ | flatSequence | flowSequence _ => .items
  | blockKey _ | flowKey _ => .pairs
  | blockValue | flowValue | flowNoValue => .value
  | pairKey => .pairKey
  | pairValue => .pairValue
  | pairEnd => .pairEnd
  | beforeDocument _ | documentEnd | ended => .other

/-- The parts up to the end of a document fit the place of the reader and those on its stack. -/
inductive Fits : List Place → List Part → Prop where
  | noDocument (first : Bool) (returns : List Place) : Fits (.beforeDocument first :: returns) []
  | document (first : Bool) (returns : List Place) (n : Node) :
      Fits (.beforeDocument first :: returns) n.parts
  | documentEnd (returns : List Place) : Fits (.documentEnd :: returns) []
  | node {place : Place} {returns : List Place} {rest : List Part} (due : place.due = .node)
      (n : Node) (later : Fits returns rest) : Fits (place :: returns) (n.parts ++ rest)
  | items {place : Place} {returns : List Place} {rest : List Part} (due : place.due = .items)
      (items : List Node) (later : Fits returns rest) :
      Fits (place :: returns) (partsOfItems items ++ .sequenceEnd :: rest)
  | pairs {place : Place} {returns : List Place} {rest : List Part} (due : place.due = .pairs)
      (pairs : List (Node × Node)) (later : Fits returns rest) :
      Fits (place :: returns) (partsOfPairs pairs ++ .mappingEnd :: rest)
  | value {place : Place} {returns : List Place} {rest : List Part} (due : place.due = .value)
      (n : Node) (pairs : List (Node × Node)) (later : Fits returns rest) :
      Fits (place :: returns) (n.parts ++ (partsOfPairs pairs ++ .mappingEnd :: rest))
  | pairKey {returns : List Place} {rest : List Part} (key n : Node) (items : List Node)
      (later : Fits returns rest) :
      Fits (.pairKey :: returns)
        (key.parts ++ (n.parts ++ .mappingEnd :: (partsOfItems items ++ .sequenceEnd :: rest)))
  | pairValue {returns : List Place} {rest : List Part} (n : Node) (items : List Node)
      (later : Fits returns rest) :
      Fits (.pairValue :: returns)
        (n.parts ++ .mappingEnd :: (partsOfItems items ++ .sequenceEnd :: rest))
  | pairEnd {returns : List Place} {rest : List Part} (items : List Node)
      (later : Fits returns rest) :
      Fits (.pairEnd :: returns) (.mappingEnd :: (partsOfItems items ++ .sequenceEnd :: rest))

section Stack

variable {place : Place} {returns : List Place} {parts : List Part}

theorem Fits.of_items (fits : Fits (place :: returns) parts) (due : place.due = .items) :
    ∃ items rest, parts = partsOfItems items ++ .sequenceEnd :: rest ∧ Fits returns rest := by
  cases fits with
  | items _ items later => exact ⟨items, _, rfl, later⟩
  | _ => simp_all [Place.due]

theorem Fits.of_pairs (fits : Fits (place :: returns) parts) (due : place.due = .pairs) :
    ∃ pairs rest, parts = partsOfPairs pairs ++ .mappingEnd :: rest ∧ Fits returns rest := by
  cases fits with
  | pairs _ pairs later => exact ⟨pairs, _, rfl, later⟩
  | _ => simp_all [Place.due]

theorem Fits.of_value (fits : Fits (place :: returns) parts) (due : place.due = .value) :
    ∃ (n : Node) (pairs : List (Node × Node)) (rest : List Part),
      parts = n.parts ++ (partsOfPairs pairs ++ .mappingEnd :: rest) ∧ Fits returns rest := by
  cases fits with
  | value _ n pairs later => exact ⟨n, pairs, _, rfl, later⟩
  | _ => simp_all [Place.due]

/-- The parts begin with a value, and those behind it fit a stack. -/
def Begins (stack : List Place) (parts : List Part) : Prop :=
  ∃ (n : Node) (rest : List Part), parts = n.parts ++ rest ∧ Fits stack rest

/-- The values of a sequence, of a key and of an entry may be followed by more of their kind. -/
theorem Begins.item {behind : Place} (begins : Begins (behind :: returns) parts)
    (next : behind.due = .items) (due : place.due = .items) : Fits (place :: returns) parts := by
  obtain ⟨n, _, rfl, later⟩ := begins
  obtain ⟨items, rest, rfl, below⟩ := later.of_items next
  have fits := Fits.items due (n :: items) below
  rwa [partsOfItems, List.append_assoc] at fits

theorem Begins.key {behind : Place} (begins : Begins (behind :: returns) parts)
    (next : behind.due = .value) (due : place.due = .pairs) : Fits (place :: returns) parts := by
  obtain ⟨key, _, rfl, later⟩ := begins
  obtain ⟨n, pairs, rest, rfl, below⟩ := later.of_value next
  have fits := Fits.pairs due ((key, n) :: pairs) below
  rwa [partsOfPairs, List.append_assoc, List.append_assoc] at fits

theorem Begins.value {behind : Place} (begins : Begins (behind :: returns) parts)
    (next : behind.due = .pairs) (due : place.due = .value) : Fits (place :: returns) parts := by
  obtain ⟨n, _, rfl, later⟩ := begins
  obtain ⟨pairs, rest, rfl, below⟩ := later.of_pairs next
  exact .value due n pairs below

end Stack

/-- The part that an event is, unless it is a reference. -/
def Event.part? : Event → Option Part
  | .scalar _ value => some (.scalar value)
  | .sequenceStart _ => some .sequenceStart
  | .sequenceEnd => some .sequenceEnd
  | .mappingStart _ => some .mappingStart
  | .mappingEnd => some .mappingEnd
  | _ => none

/-- The parts that begin with an event, where those behind it fit a stack. -/
inductive Shows (stack : List Place) : Event → List Part → Prop where
  | documentStart {parts : List Part} (later : Fits stack parts) : Shows stack .documentStart parts
  | documentEnd : Shows stack .documentEnd []
  | streamEnd : Shows stack .streamEnd []
  | part {event : Event} {part : Part} {parts : List Part} (written : event.part? = some part)
      (plain : part.IsPlain) (later : Fits stack parts) : Shows stack event (part :: parts)

namespace Reader

/-- The place of the reader and those it returns to. -/
def stack (r : Reader) : List Place :=
  r.place :: r.returns

section Node

variable {r next : Reader} {place : Place} {returns : List Place} {event : Event}
  {parts : List Part} {anchor : Option (List Char)} {block flat : Bool}

/-- Where the reader goes back to, there is a place. -/
theorem fits_of_goBack (later : Fits r.goBack.stack parts) : Fits r.returns parts := by
  cases same : r.returns with
  | nil =>
      rw [stack, goBack, same] at later
      cases later with
      | node due | items due | pairs due | value due => cases due
  | cons place returns =>
      rw [stack, goBack, same] at later
      exact later

theorem begins_of_scalar {value : Scalar} (shown : Shows returns (.scalar anchor value) parts) :
    Begins returns parts := by
  cases shown with
  | part written plain later =>
      cases written
      obtain ⟨text, style, tag⟩ := value
      obtain rfl : tag = none := plain
      exact ⟨.scalar (String.ofList text) style, _, by simp [Node.parts], later⟩

theorem begins_of_sequenceStart (due : place.due = .items)
    (shown : Shows (place :: returns) (.sequenceStart anchor) parts) : Begins returns parts := by
  cases shown with
  | part written _ later =>
      cases written
      obtain ⟨items, rest, rfl, below⟩ := later.of_items due
      exact ⟨.sequence items, rest, by simp [Node.parts], below⟩

theorem begins_of_mappingStart (due : place.due = .pairs)
    (shown : Shows (place :: returns) (.mappingStart anchor) parts) : Begins returns parts := by
  cases shown with
  | part written _ later =>
      cases written
      obtain ⟨pairs, rest, rfl, below⟩ := later.of_pairs due
      exact ⟨.mapping pairs, rest, by simp [Node.parts], below⟩

/-- A value that is not written is a value, too. -/
theorem begins_of_missingNode (read : r.missingNode place = some (event, next))
    (shown : Shows next.stack event parts) : Begins (place :: r.returns) parts := by
  cases read
  exact begins_of_scalar shown

/-- What begins as a node is one, and then comes what the reader returns to. -/
theorem begins_of_node (read : r.node block flat = some (event, next))
    (shown : Shows next.stack event parts) : Begins r.returns parts := by
  have leaf {r' : Reader} {anchor : Option (List Char)} {value : Scalar}
      (kept : r'.returns = r.returns)
      (shown : Shows r'.goBack.stack (.scalar anchor value) parts) : Begins r.returns parts := by
    obtain ⟨n, rest, rfl, later⟩ := begins_of_scalar shown
    have below := fits_of_goBack later
    rw [kept] at below
    exact ⟨n, rest, rfl, below⟩
  unfold node at read
  split at read
  · cases read
    cases shown with
    | part written => cases written
  · generalize readProperties _ = found at read
    obtain ⟨properties, rest⟩ := found
    obtain ⟨token, first, read⟩ := Option.bind_eq_some_iff.mp read
    obtain ⟨tag, expanded, read⟩ := Option.bind_eq_some_iff.mp read
    dsimp only at read
    split at read
    · cases read
      exact leaf rfl shown
    · cases read
      exact begins_of_sequenceStart rfl shown
    · cases read
      exact begins_of_mappingStart rfl shown
    · split at read
      · cases read
        exact begins_of_sequenceStart rfl shown
      · split at read
        · cases read
          exact begins_of_sequenceStart rfl shown
        · split at read
          · cases read
            exact begins_of_mappingStart rfl shown
          · split at read
            · cases read
              exact leaf rfl shown
            · cases read

theorem begins_of_choice {missing : Prop} [Decidable missing]
    (read : (if missing then r.missingNode place else (r.returnTo place).node block flat) =
      some (event, next))
    (shown : Shows next.stack event parts) : Begins (place :: r.returns) parts := by
  split at read
  · exact begins_of_missingNode read shown
  · exact begins_of_node read shown

/-- At a mark behind which the reader goes back, the mark comes first. -/
theorem fits_of_mark {part : Part} (written : event.part? = some part)
    (shown : Shows r.goBack.stack event parts) :
    ∃ rest, parts = part :: rest ∧ Fits r.returns rest := by
  cases shown with
  | part other _ later =>
      cases written.symm.trans other
      exact ⟨_, rfl, fits_of_goBack later⟩
  | _ => cases written

theorem fits_of_close {part : Part} {mark : Event} (written : mark.part? = some part)
    (read : r.close mark = some (event, next)) (shown : Shows next.stack event parts) :
    ∃ rest, parts = part :: rest ∧ Fits r.returns rest := by
  cases read
  exact fits_of_mark (r := r.advance) written shown

end Node

/-! ### One place after the other -/

section Step

variable {r next : Reader} {event : Event} {parts : List Part} {first : Bool}

theorem fits_of_blockSequence (read : r.blockSequence = some (event, next))
    (shown : Shows next.stack event parts) : Fits (.blockSequence first :: r.returns) parts := by
  unfold blockSequence at read
  split at read
  · obtain ⟨token, _, read⟩ := Option.bind_eq_some_iff.mp read
    exact (begins_of_choice read shown).item rfl rfl
  · obtain ⟨rest, rfl, later⟩ := fits_of_close rfl read shown
    exact .items rfl [] later
  · cases read

theorem fits_of_flatSequence (read : r.flatSequence = some (event, next))
    (shown : Shows next.stack event parts) : Fits (.flatSequence :: r.returns) parts := by
  unfold flatSequence at read
  split at read
  · obtain ⟨token, _, read⟩ := Option.bind_eq_some_iff.mp read
    exact (begins_of_choice read shown).item rfl rfl
  · cases read
    obtain ⟨rest, rfl, later⟩ := fits_of_mark rfl shown
    exact .items rfl [] later
  · cases read

theorem fits_of_blockKey (read : r.blockKey = some (event, next))
    (shown : Shows next.stack event parts) : Fits (.blockKey first :: r.returns) parts := by
  unfold blockKey at read
  split at read
  · obtain ⟨token, _, read⟩ := Option.bind_eq_some_iff.mp read
    exact (begins_of_choice read shown).key rfl rfl
  · obtain ⟨rest, rfl, later⟩ := fits_of_close rfl read shown
    exact .pairs rfl [] later
  · cases read

theorem fits_of_blockValue (read : r.blockValue = some (event, next))
    (shown : Shows next.stack event parts) : Fits (.blockValue :: r.returns) parts := by
  unfold blockValue at read
  split at read
  · obtain ⟨token, _, read⟩ := Option.bind_eq_some_iff.mp read
    exact (begins_of_choice read shown).value rfl rfl
  · exact (begins_of_missingNode read shown).value rfl rfl
  · cases read

theorem returns_passComma {r' : Reader} {close : Token}
    (passed : r.passComma? first close = some r') : r'.returns = r.returns := by
  unfold passComma? at passed
  split at passed
  · cases passed
  · split at passed
    · cases passed
      rfl
    · split at passed <;> cases passed
      rfl

/-- A mapping of one entry is an item like any other. -/
theorem fits_of_pair {returns : List Place}
    (shown : Shows (.pairKey :: returns) (.mappingStart none) parts) :
    Fits (.flowSequence first :: returns) parts := by
  cases shown with
  | part written _ later =>
      cases written
      cases later with
      | pairKey key n items later =>
          have fits : Fits (.flowSequence first :: returns) _ :=
            .items rfl (.mapping [(key, n)] :: items) later
          simpa [partsOfItems, partsOfPairs, Node.parts] using fits
      | node due | items due | pairs due | value due => cases due

theorem fits_of_flowSequence {begun : Bool} (read : r.flowSequence begun = some (event, next))
    (shown : Shows next.stack event parts) : Fits (.flowSequence first :: r.returns) parts := by
  obtain ⟨r', passed, read⟩ := Option.bind_eq_some_iff.mp read
  rw [← returns_passComma passed]
  split at read
  · cases read
  · obtain ⟨rest, rfl, later⟩ := fits_of_close rfl read shown
    exact .items rfl [] later
  · cases read
    exact fits_of_pair shown
  · exact (begins_of_node read shown).item rfl rfl

theorem fits_of_pairKey (read : r.pairKey = some (event, next))
    (shown : Shows next.stack event parts) : Fits (.pairKey :: r.returns) parts := by
  obtain ⟨token, _, read⟩ := Option.bind_eq_some_iff.mp read
  have begins : Begins (.pairValue :: r.returns) parts := by
    split at read
    · exact begins_of_missingNode (r := r.advance) read shown
    · exact begins_of_node read shown
  obtain ⟨key, _, rfl, later⟩ := begins
  cases later with
  | pairValue n items later => exact .pairKey key n items later
  | node due | items due | pairs due | value due => cases due

theorem fits_of_pairValue (read : r.pairValue = some (event, next))
    (shown : Shows next.stack event parts) : Fits (.pairValue :: r.returns) parts := by
  have begins : Begins (.pairEnd :: r.returns) parts := by
    unfold pairValue at read
    split at read
    · obtain ⟨token, _, read⟩ := Option.bind_eq_some_iff.mp read
      exact begins_of_choice (r := r.advance) read shown
    · exact begins_of_missingNode read shown
    · cases read
  obtain ⟨n, _, rfl, later⟩ := begins
  cases later with
  | pairEnd items later => exact .pairValue n items later
  | node due | items due | pairs due | value due => cases due

theorem fits_of_pairEnd (read : r.pairEnd = some (event, next))
    (shown : Shows next.stack event parts) : Fits (.pairEnd :: r.returns) parts := by
  unfold pairEnd at read
  split at read
  · cases read
  · cases read
    cases shown with
    | part written _ later =>
        cases written
        obtain ⟨items, rest, rfl, below⟩ := later.of_items rfl
        exact .pairEnd items below

theorem fits_of_flowKey {begun : Bool} (read : r.flowKey begun = some (event, next))
    (shown : Shows next.stack event parts) : Fits (.flowKey first :: r.returns) parts := by
  obtain ⟨r', passed, read⟩ := Option.bind_eq_some_iff.mp read
  rw [← returns_passComma passed]
  split at read
  · cases read
  · obtain ⟨rest, rfl, later⟩ := fits_of_close rfl read shown
    exact .pairs rfl [] later
  · obtain ⟨token, _, read⟩ := Option.bind_eq_some_iff.mp read
    exact (begins_of_choice read shown).key rfl rfl
  · exact (begins_of_node read shown).key rfl rfl

theorem fits_of_flowValue (read : r.flowValue = some (event, next))
    (shown : Shows next.stack event parts) : Fits (.flowValue :: r.returns) parts := by
  unfold flowValue at read
  split at read
  · obtain ⟨token, _, read⟩ := Option.bind_eq_some_iff.mp read
    exact (begins_of_choice read shown).value rfl rfl
  · exact (begins_of_missingNode read shown).value rfl rfl
  · cases read

theorem fits_of_flowNoValue (read : r.flowNoValue = some (event, next))
    (shown : Shows next.stack event parts) : Fits (.flowNoValue :: r.returns) parts := by
  unfold flowNoValue at read
  split at read
  · cases read
  · exact (begins_of_missingNode read shown).value rfl rfl

/-- Behind the mark of its beginning a document may be empty. -/
theorem begins_of_documentContent (read : r.documentContent = some (event, next))
    (shown : Shows next.stack event parts) : Begins r.returns parts := by
  have choice {bare : Bool}
      (read : (if bare then some (.scalar none .empty, r.goBack) else r.node true false) =
        some (event, next)) : Begins r.returns parts := by
    split at read
    · cases read
      obtain ⟨n, rest, rfl, later⟩ := begins_of_scalar shown
      exact ⟨n, rest, rfl, fits_of_goBack later⟩
    · exact begins_of_node read shown
  obtain ⟨token, _, read⟩ := Option.bind_eq_some_iff.mp read
  exact choice read

theorem fits_of_documentEnd (read : r.documentEnd = some (event, next))
    (shown : Shows next.stack event parts) : Fits (.documentEnd :: r.returns) parts := by
  obtain ⟨token, _, read⟩ := Option.bind_eq_some_iff.mp read
  cases read
  cases shown with
  | documentEnd => exact .documentEnd _
  | part written => cases written

/-- A document is one node, and then it ends. -/
theorem fits_of_document {place : Place} {returns : List Place} (due : place.due = .node)
    (shown : Shows (place :: .documentEnd :: returns) .documentStart parts) :
    Fits (.beforeDocument first :: returns) parts := by
  cases shown with
  | documentStart later =>
      cases later with
      | node _ n later =>
          cases later with
          | documentEnd =>
              rw [List.append_nil]
              exact .document first returns n
          | node due | items due | pairs due | value due => cases due
      | _ => simp_all [Place.due]
  | part written => cases written

theorem fits_of_documentStart {begun : Bool} (read : r.documentStart begun = some (event, next))
    (shown : Shows next.stack event parts) :
    Fits (.beforeDocument first :: r.returns) parts := by
  obtain ⟨token, _, read⟩ := Option.bind_eq_some_iff.mp read
  dsimp only at read
  split at read
  · cases read
    cases shown with
    | streamEnd => exact .noDocument first _
    | part written => cases written
  · generalize (begun && !_) = bare at read
    split at read
    · cases read
      exact fits_of_document rfl shown
    · obtain ⟨⟨directives, rest⟩, _, read⟩ := Option.bind_eq_some_iff.mp read
      split at read
      · cases read
      · cases read
        exact fits_of_document rfl shown

/-- A step back over one event keeps the fit. -/
theorem fits_of_step (read : r.step = some (event, next)) (shown : Shows next.stack event parts) :
    Fits r.stack parts := by
  unfold step at read
  unfold stack
  cases place : r.place with
  | beforeDocument first =>
      rw [place] at read
      exact fits_of_documentStart read shown
  | documentContent =>
      rw [place] at read
      obtain ⟨n, rest, rfl, later⟩ := begins_of_documentContent read shown
      exact .node rfl n later
  | documentEnd =>
      rw [place] at read
      exact fits_of_documentEnd read shown
  | blockNode =>
      rw [place] at read
      obtain ⟨n, rest, rfl, later⟩ := begins_of_node read shown
      exact .node rfl n later
  | blockSequence first =>
      rw [place] at read
      cases first with
      | true => exact fits_of_blockSequence (r := r.advance) read shown
      | false => exact fits_of_blockSequence read shown
  | flatSequence =>
      rw [place] at read
      exact fits_of_flatSequence read shown
  | blockKey first =>
      rw [place] at read
      cases first with
      | true => exact fits_of_blockKey (r := r.advance) read shown
      | false => exact fits_of_blockKey read shown
  | blockValue =>
      rw [place] at read
      exact fits_of_blockValue read shown
  | flowSequence first =>
      rw [place] at read
      cases first with
      | true => exact fits_of_flowSequence (r := r.advance) read shown
      | false => exact fits_of_flowSequence read shown
  | pairKey =>
      rw [place] at read
      exact fits_of_pairKey read shown
  | pairValue =>
      rw [place] at read
      exact fits_of_pairValue read shown
  | pairEnd =>
      rw [place] at read
      exact fits_of_pairEnd read shown
  | flowKey first =>
      rw [place] at read
      cases first with
      | true => exact fits_of_flowKey (r := r.advance) read shown
      | false => exact fits_of_flowKey read shown
  | flowValue =>
      rw [place] at read
      exact fits_of_flowValue read shown
  | flowNoValue =>
      rw [place] at read
      exact fits_of_flowNoValue read shown
  | ended =>
      rw [place] at read
      cases read

end Step

end Reader

namespace Document

theorem exists_consAnchored (names : Names) (position : Nat) (anchor : Option (List Char))
    (part : Part) (behind : Names → Document) :
    ∃ known, (consAnchored names position anchor part behind).parts =
        part :: (behind known).parts ∧
      (consAnchored names position anchor part behind).complete = (behind known).complete := by
  cases anchor with
  | none => exact ⟨names, rfl, rfl⟩
  | some name => exact ⟨names.give name, rfl, rfl⟩

/-- An event in front of a document that fits. -/
theorem shows_of_read {names : Names} {position : Nat} {event : Event} {rest : List Event}
    {stack : List Place} (complete : (read names position (event :: rest)).complete = true)
    (plain : ∀ part ∈ (read names position (event :: rest)).parts, part.IsPlain)
    (later : ∀ known place, (read known place rest).complete = true →
      (∀ part ∈ (read known place rest).parts, part.IsPlain) →
        Fits stack (read known place rest).parts) :
    Shows stack event (read names position (event :: rest)).parts := by
  have mark {d : Document} {part : Part} {known : Names} {place : Nat}
      (written : event.part? = some part)
      (parts : d.parts = part :: (read known place rest).parts)
      (same : d.complete = (read known place rest).complete) (complete : d.complete = true)
      (plain : ∀ part ∈ d.parts, part.IsPlain) : Shows stack event d.parts := by
    rw [parts] at plain ⊢
    obtain ⟨first, others⟩ := List.forall_mem_cons.mp plain
    exact .part written first (later known place (same ▸ complete) others)
  cases event with
  | documentStart => exact .documentStart (later names position complete plain)
  | documentEnd => exact .documentEnd
  | streamEnd =>
      rw [read] at plain ⊢
      split at plain
      · nomatch plain .absent (List.mem_singleton.mpr rfl)
      · next other =>
          rw [if_neg other]
          exact .streamEnd
  | «alias» name =>
      rw [read] at complete plain
      split at plain
      · next number _ => nomatch plain (.reference number) List.mem_cons_self
      · next unknown =>
          rw [unknown] at complete
          nomatch complete
  | scalar anchor value =>
      obtain ⟨known, parts, same⟩ := exists_consAnchored names position anchor (.scalar value)
        fun names => read names (position + 1) rest
      exact mark rfl parts same complete plain
  | sequenceStart anchor =>
      obtain ⟨known, parts, same⟩ := exists_consAnchored names position anchor .sequenceStart
        fun names => read names (position + 1) rest
      exact mark rfl parts same complete plain
  | mappingStart anchor =>
      obtain ⟨known, parts, same⟩ := exists_consAnchored names position anchor .mappingStart
        fun names => read names (position + 1) rest
      exact mark rfl parts same complete plain
  | sequenceEnd | mappingEnd => exact mark rfl rfl rfl complete plain

/-- The parts of a complete document fit the reader of its events wherever it stands. -/
theorem fits_of_read (turns : Nat) :
    ∀ (r : Reader) (names : Names) (position : Nat),
      (read names position (r.events turns)).complete = true →
        (∀ part ∈ (read names position (r.events turns)).parts, part.IsPlain) →
          Fits r.stack (read names position (r.events turns)).parts := by
  induction turns with
  | zero =>
      intro r names position complete _
      cases complete
  | succ turns ih =>
      intro r names position complete plain
      rw [Reader.events] at complete plain ⊢
      cases stepped : r.step with
      | none =>
          rw [stepped] at complete
          cases complete
      | some answer =>
          obtain ⟨event, next⟩ := answer
          rw [stepped] at complete plain
          exact Reader.fits_of_step stepped (shows_of_read complete plain (ih next))

end Document

/-- Whatever is alone and complete in a text, and has neither references nor tags nor is nothing at
all, is one value. -/
theorem exists_writes_iff {text : String} :
    (∃ root, Writes text root) ↔
      (Document.ofText text).complete = true ∧ (Document.ofText text).followed = false ∧
        (Document.ofText text).parts ≠ [] ∧
        ∀ part ∈ (Document.ofText text).parts, part.IsPlain := by
  constructor
  · rintro ⟨root, writes⟩
    refine ⟨writes.complete, writes.alone, ?_, ?_⟩
    · rw [writes.parts]
      cases root <;> nofun
    · rw [writes.parts]
      exact fun part => Node.isPlain_of_mem_parts
  · rintro ⟨complete, alone, inhabited, plain⟩
    have fits : Fits _ (Document.ofText text).parts := Document.fits_of_read _ _ _ _ complete plain
    generalize same : (Document.ofText text).parts = parts at fits inhabited
    cases fits with
    | noDocument => exact absurd rfl inhabited
    | document _ _ root => exact ⟨root, same, complete, alone⟩
    | node due | items due | pairs due | value due => cases due

end RolloutWatch.Yaml
