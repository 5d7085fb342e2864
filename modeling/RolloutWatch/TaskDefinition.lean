/-!
# Task definitions

The identifier of a task definition names a family and a revision. Both stand in
its second segment, where segments are separated by slashes: the family is the
part of that segment in front of its first colon, the revision the part from
there to the next colon or to the end of the segment. Any of the parts may be
empty, and what follows them is ignored.
-/

namespace RolloutWatch

/-- The identifier of a task definition with the parts read from it. -/
structure TaskDefinition where
  /-- The identifier as it was given. -/
  text : String
  family : String
  revision : String
deriving DecidableEq, Repr

/-- Why a text does not identify a task definition. -/
inductive TaskDefinitionFault where
  /-- The text has no slash, so there is no second segment. -/
  | missingFamily (text : String)
  /-- The second segment has no colon. -/
  | missingRevision (text : String)
deriving DecidableEq, Repr

def TaskDefinitionFault.message : TaskDefinitionFault → String
  | .missingFamily text =>
    "task definition identifier has no '/' separated family segment: " ++ text
  | .missingRevision text =>
    "task definition identifier has no ':' separated revision: " ++ text

namespace TaskDefinition

instance : ToString TaskDefinition where
  toString definition := definition.text

/-- The part of a text in front of the first `mark`. -/
def before (mark : Char) (text : List Char) : List Char :=
  text.takeWhile (· != mark)

/-- The part of a text behind the first `mark`, or `none` if there is no `mark`. -/
def after? (mark : Char) (text : List Char) : Option (List Char) :=
  match text.dropWhile (· != mark) with
  | [] => none
  | _ :: rest => some rest

/-- Reads the family and the revision of a task definition's identifier. -/
def parse (text : String) : Except TaskDefinitionFault TaskDefinition :=
  match after? '/' text.toList with
  | none => .error (.missingFamily text)
  | some rest =>
    let segment := before '/' rest
    match after? ':' segment with
    | none => .error (.missingRevision text)
    | some tail =>
      .ok {
        text
        family := String.ofList (before ':' segment)
        revision := String.ofList (before ':' tail) }

/-- The revision alone. -/
def parseRevision (text : String) : Except TaskDefinitionFault String :=
  (parse text).map (·.revision)

end TaskDefinition

end RolloutWatch
