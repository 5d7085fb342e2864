import RolloutWatch.Yaml.Event.Grammar
import RolloutWatch.Yaml.Token.Lexer

/-!
# Documents

The first document of a text as a list of parts: scalars, the ends of collections,
and references to parts. A reference leads to the part that has the anchor of its
name, and the name has to be known where the reference stands.

A fault of the text does not keep the parts in front of it from being read. A
document knows whether it was cut short by one, and whether anything comes after it.
-/

namespace RolloutWatch.Yaml

/-- A piece of the structure of a document. -/
inductive Part where
  /-- The content of a stream without documents. -/
  | absent
  /-- A reference to the part with this number among the anchors. -/
  | reference (anchor : Nat)
  | scalar (value : Scalar)
  | sequenceStart
  | sequenceEnd
  | mappingStart
  | mappingEnd
deriving DecidableEq, Repr

/-- The first document of a text. -/
structure Document where
  parts : List Part := []
  /-- The positions of the parts that have anchors, the latest first. -/
  anchors : List (Nat × Nat) := []
  /-- Whether the text has no fault before the end of the document. -/
  complete : Bool := true
  /-- Whether the text goes on after the document. -/
  followed : Bool := false
deriving Repr

namespace Document

/-- The parts that begin with the one a reference leads to. -/
def target (d : Document) (anchor : Nat) : List Part :=
  ((d.anchors.lookup anchor).map d.parts.drop).getD []

/-- Puts a part in front. -/
def cons (part : Part) (d : Document) : Document :=
  { d with parts := part :: d.parts }

/-- The names of anchors with their numbers. -/
abbrev Names := List (List Char × Nat)

/-- Gives a name to the next anchor. Its number is how many different names there are
so far, and a name that is given again gets the new number. -/
def Names.give (names : Names) (name : List Char) : Names :=
  (name, names.length) :: names.filter (·.1 != name)

/-- Puts a part in front that may have an anchor, where `position` parts come before
it and the parts behind it are read with the names as they are then. -/
def consAnchored (names : Names) (position : Nat) (anchor : Option (List Char)) (part : Part)
    (behind : Names → Document) : Document :=
  match anchor with
  | none => (behind names).cons part
  | some name =>
    let d := (behind (names.give name)).cons part
    { d with anchors := d.anchors ++ [(names.length, position)] }

/-- Reads parts up to the end of the document, where `position` parts come before. -/
def read (names : Names) (position : Nat) : List Event → Document
  | [] => { complete := false }
  | event :: rest =>
    match event with
    | .documentStart => read names position rest
    | .documentEnd => { followed := rest.head? != some .streamEnd }
    | .streamEnd => if position = 0 then { parts := [.absent] } else {}
    | .alias name =>
      match names.lookup name with
      | some number => (read names (position + 1) rest).cons (.reference number)
      | none => { complete := false }
    | .scalar anchor value =>
      consAnchored names position anchor (.scalar value) fun names => read names (position + 1) rest
    | .sequenceStart anchor =>
      consAnchored names position anchor .sequenceStart fun names => read names (position + 1) rest
    | .sequenceEnd => (read names (position + 1) rest).cons .sequenceEnd
    | .mappingStart anchor =>
      consAnchored names position anchor .mappingStart fun names => read names (position + 1) rest
    | .mappingEnd => (read names (position + 1) rest).cons .mappingEnd

/-- The first document of a text. -/
def ofText (text : String) : Document :=
  read [] 0 (Event.ofTokens (Token.ofText text))

end Document

end RolloutWatch.Yaml
