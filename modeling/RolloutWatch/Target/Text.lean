import RolloutWatch.Instant.Text
import RolloutWatch.Target.Basic
import RolloutWatch.Yaml.Fault

/-!
# Targets as YAML

A target is written as a mapping with three fields in any order, each exactly once.
Other fields are passed over, whatever they hold.
-/

namespace RolloutWatch

/-- Why a target could not be read from a document. -/
inductive TargetFault where
  | document (fault : Yaml.Fault)
  | instant (path : Yaml.Path) (fault : InstantFault)
deriving DecidableEq, Repr

def TargetFault.message? : TargetFault → Option String
  | document fault => fault.message?
  | instant path fault => some (path.label ++ fault.message)

namespace Target

/-- The fields read so far. -/
structure Draft where
  cluster : Option String := none
  service : Option String := none
  createdAt : Option Instant := none
deriving DecidableEq, Repr

/-- A field of a target. -/
inductive Field where
  | cluster
  | service
  | createdAt
deriving DecidableEq, Repr

namespace Field

def name : Field → String
  | cluster => "cluster"
  | service => "service"
  | createdAt => "deployment_created_at"

def ofName? (name : String) : Option Field :=
  [cluster, service, createdAt].find? (·.name == name)

/-- Whether the field has been read. -/
def isRead (draft : Draft) : Field → Bool
  | cluster => draft.cluster.isSome
  | service => draft.service.isSome
  | createdAt => draft.createdAt.isSome

/-- What the value of the field has to be. -/
def expected : Field → String
  | createdAt => "an RFC 3339 formatted date and time string"
  | _ => "a string"

end Field

/-- Reads the value of a field. -/
def readValue (d : Yaml.Document) (draft : Draft) (key : Option String) (field : Field)
    (part : Yaml.Part) : Except TargetFault Draft :=
  match (d.head part).word (.field key) field.expected with
  | .error fault => .error (.document fault)
  | .ok word =>
    match field with
    | .cluster => .ok { draft with cluster := some word }
    | .service => .ok { draft with service := some word }
    | .createdAt =>
      match Instant.parse word with
      | .ok instant => .ok { draft with createdAt := some instant }
      | .error fault => .error (.instant (.field key) fault)

/-- Reads entries up to the end of the mapping. -/
def readEntries (d : Yaml.Document) (draft : Draft) (parts : List Yaml.Part) :
    Except TargetFault Draft :=
  match parts with
  | [] => .error (.document .malformed)
  | .mappingEnd :: _ => .ok draft
  | part :: rest =>
    match d.readKey part with
    | .error fault => .error (.document fault)
    | .ok (name, key) =>
      match Field.ofName? name with
      | some field =>
        if field.isRead draft then .error (.document (.duplicateField name))
        else
          match rest with
          | [] => .error (.document .malformed)
          | value :: after =>
            match readValue d draft key field value with
            | .error fault => .error fault
            | .ok draft => readEntries d draft after
      | none =>
        match h : Yaml.Document.skipValue 0 rest with
        | .error fault => .error (.document fault)
        | .ok after =>
          have := Yaml.Document.length_skipValue_lt rest 0 after h
          readEntries d draft after
termination_by parts.length

/-- The target with these fields. The first one that is missing decides the fault. -/
def ofDraft (draft : Draft) : Except TargetFault Target :=
  match draft.cluster, draft.service, draft.createdAt with
  | none, _, _ => .error (.document (.missingField Field.cluster.name))
  | _, none, _ => .error (.document (.missingField Field.service.name))
  | _, _, none => .error (.document (.missingField Field.createdAt.name))
  | some cluster, some service, some createdAt =>
    .ok { cluster := ⟨cluster⟩, service := ⟨service⟩, createdAt }

/-- Reads a target from a document. -/
def ofDocument (d : Yaml.Document) : Except TargetFault Target :=
  match d.entries "struct StreamTarget" with
  | .error fault => .error (.document fault)
  | .ok parts => do
    let target ← ofDraft (← readEntries d {} parts)
    match d.finish with
    | .error fault => throw (.document fault)
    | .ok () => return target

/-- Reads a target from a text. -/
def ofYaml (text : String) : Except TargetFault Target :=
  ofDocument (.ofText text)

end Target

end RolloutWatch
