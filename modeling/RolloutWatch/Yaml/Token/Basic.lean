/-!
# Tokens of YAML

The smallest parts of a YAML text that have a meaning of their own. Where the
nesting of collections shows in the indentation alone, there are tokens for the
places at which a collection begins and ends.
-/

namespace RolloutWatch.Yaml

/-- The notations for a scalar. -/
inductive ScalarStyle where
  | plain
  | singleQuoted
  | doubleQuoted
  | literal
  | folded
deriving DecidableEq, Repr

/-- A token. The names of anchors and the parts of tags are texts. -/
inductive Token where
  | streamStart
  | streamEnd
  | versionDirective (major minor : Nat)
  | tagDirective (handle expansion : List Char)
  | documentStart
  | documentEnd
  | blockSequenceStart
  | blockMappingStart
  | blockEnd
  | flowSequenceStart
  | flowSequenceEnd
  | flowMappingStart
  | flowMappingEnd
  | blockEntry
  | flowEntry
  | key
  | value
  | alias (name : List Char)
  | anchor (name : List Char)
  | tag (handle suffix : List Char)
  | scalar (text : List Char) (style : ScalarStyle)
deriving DecidableEq, Repr

end RolloutWatch.Yaml
