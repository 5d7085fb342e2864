import RolloutWatch.Text.Place
import RolloutWatch.Yaml.Document
import RolloutWatch.Yaml.Scalar

/-!
# Reading values from documents

Faults of a document and the readers for the simplest values. A reader takes a
value from the front of a list of parts and returns the parts behind it. Where the
value is a reference it is read at the part that the reference leads to, and the
parts behind the reference follow.

Parts may run out in the middle of a value, because the text has a fault there.
That fault has no message here.
-/

namespace RolloutWatch.Yaml

/-- Where in a document a value stands. The key is missing if it is not written at
the place. -/
inductive Path where
  | root
  | field (key : Option String)
  | item (key : Option String) (index : Nat)
deriving DecidableEq, Repr

/-- The path in front of a message. -/
def Path.label : Path → String
  | root => ""
  | field key => key.getD "?" ++ ": "
  | item key index => key.getD "?" ++ "[" ++ toString index ++ "]: "

/-- Why a document could not be read. -/
inductive Fault where
  /-- The text is not YAML. -/
  | malformed
  /-- A value has another kind than is expected. -/
  | wrongKind (path : Path) (found : Found) (expected : String)
  /-- The text of a value does not write what is expected. -/
  | wrongText (path : Path) (text expected : String)
  | unknownField (name : String) (known : List String)
  | duplicateField (name : String)
  | missingField (name : String)
  | severalDocuments
deriving DecidableEq, Repr

/-- The text between two accents. -/
def accented (name : String) : String :=
  "`" ++ name ++ "`"

/-- What a fault says of the document. -/
def Fault.wording? : Fault → Option String
  | malformed => none
  | wrongKind path found expected =>
    some (path.label ++ "invalid type: " ++ found.describe ++ ", expected " ++ expected)
  | wrongText path text expected =>
    some (path.label ++ "invalid value: string " ++ Text.quoted text ++ ", expected " ++ expected)
  | unknownField name known =>
    some ("unknown field " ++ accented name ++ ", expected one of "
      ++ ", ".intercalate (known.map accented))
  | duplicateField name => some ("duplicate field " ++ accented name)
  | missingField name => some ("missing field " ++ accented name)
  | severalDocuments =>
    some "deserializing from YAML containing more than one document is not supported"

/-- What is wrong, without a word on where: a mention of a place is left out even if
it comes from the document. -/
def Fault.message? (fault : Fault) : Option String :=
  fault.wording?.map Text.withoutPlaces

/-- The fault of a part that is not what is expected. -/
def Part.mismatch (path : Path) (expected : String) : Part → Fault
  | absent => .wrongKind path .unit expected
  | scalar value =>
    match value.meaning with
    | .ok found => .wrongKind path found expected
    | .error kind => .wrongText path value.word kind
  | sequenceStart => .wrongKind path .sequence expected
  | mappingStart => .wrongKind path .mapping expected
  | _ => .malformed

/-- The text of a part that is a scalar. -/
def Part.word (path : Path) (expected : String) : Part → Except Fault String
  | scalar value => .ok value.word
  | part => .error (part.mismatch path expected)

/-- The unsigned number of a part that is a scalar with such a meaning. -/
def Part.count (path : Path) (expected : String) : Part → Except Fault Nat
  | scalar value =>
    match value.count? with
    | some n => .ok n
    | none => .error ((scalar value).mismatch path expected)
  | part => .error (part.mismatch path expected)

namespace Document

/-- The parts of the value that a reference leads to, or the value's own parts. -/
def resolve (d : Document) : Part → List Part → List Part
  | .reference anchor, _ => d.target anchor
  | part, rest => part :: rest

/-- The first part of a value, behind its reference. -/
def head (d : Document) (part : Part) : Part :=
  (d.resolve part []).headD part

/-- Reads the items of a sequence of texts up to its end. -/
def readWords (d : Document) (key : Option String) (index : Nat) :
    List Part → Except Fault (List String × List Part)
  | [] => .error .malformed
  | .sequenceEnd :: rest => .ok ([], rest)
  | part :: rest => do
    let word ← (d.head part).word (.item key index) "a string"
    let (words, after) ← d.readWords key (index + 1) rest
    return (word :: words, after)

/-- Reads a sequence of texts. A value that is not written is an empty sequence. -/
def readSequence (d : Document) (key : Option String) :
    List Part → Except Fault (List String × List Part)
  | [] => .error .malformed
  | part :: rest =>
    match d.resolve part rest with
    | .sequenceStart :: items => do
      let (words, after) ← d.readWords key 0 items
      match part with
      | .reference _ => return (words, rest)
      | _ => return (words, after)
    | .scalar value :: _ =>
      if value.isUnwritten then .ok ([], rest)
      else .error ((Part.scalar value).mismatch (.field key) "a sequence")
    | other :: _ => .error (other.mismatch (.field key) "a sequence")
    | [] => .error .malformed

/-- Passes over a value, where `depth` collections are open. -/
def skipValue (depth : Nat) : List Part → Except Fault (List Part)
  | [] => .error .malformed
  | part :: rest =>
    match part with
    | .sequenceStart => skipValue (depth + 1) rest
    | .mappingStart => skipValue (depth + 1) rest
    | .sequenceEnd => if depth ≤ 1 then .ok rest else skipValue (depth - 1) rest
    | .mappingEnd => if depth ≤ 1 then .ok rest else skipValue (depth - 1) rest
    | _ => if depth = 0 then .ok rest else skipValue depth rest

/-- Reads a key of a mapping: its text, and the text as it shows in paths. -/
def readKey (d : Document) (part : Part) : Except Fault (String × Option String) := do
  let name ← (d.head part).word .root "field identifier"
  match part with
  | .scalar _ => return (name, some name)
  | _ => return (name, none)

/-- The parts of the entries of the document's mapping, with the mark of its end. A
document without content has no entries. -/
def entries (d : Document) (expected : String) : Except Fault (List Part) :=
  match d.parts with
  | [] => .error .malformed
  | .mappingStart :: rest => .ok rest
  | .absent :: _ => .ok [.mappingEnd]
  | .scalar value :: _ =>
    if value.isUnwritten then .ok [.mappingEnd]
    else .error ((Part.scalar value).mismatch .root expected)
  | part :: _ => .error (part.mismatch .root expected)

/-- Looks at what is around the mapping once it has been read: the document has to
come to its end, and nothing may follow it. -/
def finish (d : Document) : Except Fault Unit :=
  if !d.complete then .error .malformed
  else if d.followed then .error .severalDocuments
  else .ok ()

theorem length_readWords_le (d : Document) (key : Option String) (parts : List Part) :
    ∀ index words after, d.readWords key index parts = .ok (words, after) →
      after.length < parts.length := by
  induction parts with
  | nil =>
      intro index words after h
      cases h
  | cons part rest ih =>
      intro index words after h
      unfold readWords at h
      split at h
      · cases h
      · next same =>
          cases same
          cases h
          simp
      · next same =>
          cases same
          cases hw : (d.head part).word (.item key index) "a string" with
          | error fault =>
              rw [hw] at h
              cases h
          | ok word =>
              rw [hw] at h
              cases hr : d.readWords key (index + 1) rest with
              | error fault =>
                  simp only [hr, bind, Except.bind] at h
                  cases h
              | ok read =>
                  simp only [hr, bind, Except.bind, pure, Except.pure, Except.ok.injEq,
                    Prod.mk.injEq] at h
                  have := ih (index + 1) read.1 read.2 (by rw [hr])
                  rw [← h.2]
                  exact Nat.lt_succ_of_lt this

theorem length_skipValue_lt (parts : List Part) :
    ∀ depth after, skipValue depth parts = .ok after → after.length < parts.length := by
  induction parts with
  | nil =>
      intro depth after h
      cases h
  | cons part rest ih =>
      intro depth after h
      have step : ∀ {n}, skipValue n rest = .ok after → after.length < (part :: rest).length :=
        fun h => Nat.lt_succ_of_lt (ih _ _ h)
      have stop : rest = after → after.length < (part :: rest).length := by
        rintro rfl
        simp
      unfold skipValue at h
      cases part <;> simp only at h
      case sequenceStart => exact step h
      case mappingStart => exact step h
      all_goals
        split at h
        · exact stop (Except.ok.inj h)
        · exact step h

theorem length_readSequence_lt (d : Document) (key : Option String) {parts after : List Part}
    {words : List String} (h : d.readSequence key parts = .ok (words, after)) :
    after.length < parts.length := by
  unfold readSequence at h
  split at h
  · cases h
  · next part rest =>
      split at h
      · next items resolved =>
          cases hr : d.readWords key 0 items with
          | error fault =>
              simp only [hr, bind, Except.bind] at h
              cases h
          | ok read =>
              simp only [hr, bind, Except.bind] at h
              split at h
              · cases h
                simp
              · next notReference =>
                  have same : items = rest := by
                    cases part <;> simp_all [resolve]
                  cases h
                  have := length_readWords_le d key items 0 read.1 read.2 (by rw [hr])
                  rw [same] at this
                  exact Nat.lt_succ_of_lt this
      · split at h
        · cases h
          simp
        · cases h
      · cases h
      · cases h

end Document

end RolloutWatch.Yaml
