import RolloutWatch.Yaml.Token.Basic

/-!
# Events of YAML

The structure of a stream of documents, in the order of its text. A collection is
an event at either end with the events of its items between them. Tags are kept
for scalars, where they may decide what a text means.
-/

namespace RolloutWatch.Yaml

/-- A scalar as it is written, without its anchor. -/
structure Scalar where
  text : List Char
  style : ScalarStyle
  /-- The tag with its handle expanded. -/
  tag : Option (List Char) := none
deriving DecidableEq, Repr

/-- A piece of the structure of a stream. -/
inductive Event where
  | documentStart
  | documentEnd
  | streamEnd
  | alias (name : List Char)
  | scalar (anchor : Option (List Char)) (value : Scalar)
  | sequenceStart (anchor : Option (List Char))
  | sequenceEnd
  | mappingStart (anchor : Option (List Char))
  | mappingEnd
deriving DecidableEq, Repr

/-- The scalar that stands for a value that is not written. -/
def Scalar.empty : Scalar :=
  { text := [], style := .plain }

end RolloutWatch.Yaml
