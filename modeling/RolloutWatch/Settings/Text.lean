import RolloutWatch.Duration.Text
import RolloutWatch.Settings.Basic
import RolloutWatch.Yaml.Fault

/-!
# Settings as YAML

Settings are written as a mapping with up to three fields, each at most once and in
any order. A field that is left out has its default. The entries are read in the
order of the document, and the first fault ends the reading: an unknown or repeated
field at its key, a bad value when it has been read, a fault of the text as soon as
it is in the way, and whatever follows the document after all else.

The values of keys and texts are taken as they are written, whatever they would
mean as YAML values.
-/

namespace RolloutWatch

/-- Why settings could not be read from a document. -/
inductive SettingsFault where
  | document (fault : Yaml.Fault)
  | emptyKeyword (index : Nat)
  | noKeyword
  | zeroCapacity
  /-- The interval is one nanosecond longer than the longest duration; reading breaks off. -/
  | breakdown
deriving DecidableEq, Repr

def SettingsFault.message? : SettingsFault → Option String
  | document fault => fault.message?
  | emptyKeyword index => some ("failure keyword at index " ++ toString index ++ " is empty")
  | noKeyword => some "at least one failure keyword is required"
  | zeroCapacity => some "listener_capacity must be at least 1"
  | breakdown => none

namespace Settings

/-- The fields read so far. -/
structure Draft where
  fetchInterval : Option Duration := none
  failureKeywords : Option Keywords := none
  listenerCapacity : Option Nat := none
deriving DecidableEq, Repr

/-- The settings with the defaults of the fields that are left out. -/
def ofDraft (draft : Draft) : Settings where
  fetchInterval := draft.fetchInterval.getD default.fetchInterval
  failureKeywords := draft.failureKeywords.getD default.failureKeywords
  listenerCapacity := draft.listenerCapacity.getD default.listenerCapacity

/-- A field of the settings. -/
inductive Field where
  | fetchInterval
  | failureKeywords
  | listenerCapacity
deriving DecidableEq, Repr

namespace Field

def name : Field → String
  | fetchInterval => "fetch_interval"
  | failureKeywords => "failure_keywords"
  | listenerCapacity => "listener_capacity"

def all : List Field := [fetchInterval, failureKeywords, listenerCapacity]

def ofName? (name : String) : Option Field :=
  all.find? (·.name == name)

/-- Whether the field has been read. -/
def isRead (draft : Draft) : Field → Bool
  | fetchInterval => draft.fetchInterval.isSome
  | failureKeywords => draft.failureKeywords.isSome
  | listenerCapacity => draft.listenerCapacity.isSome

end Field

/-- A fault of the document is one of the settings. -/
def lift {α : Type} : Except Yaml.Fault α → Except SettingsFault α
  | .ok value => .ok value
  | .error fault => .error (.document fault)

/-- The keywords of a list. None of them may be empty, and there has to be one. -/
def keywordsOf (words : List String) : Except SettingsFault Keywords :=
  match words.findIdx? (·.isEmpty) with
  | some index => .error (.emptyKeyword index)
  | none =>
    match Keywords.ofList? words with
    | some keywords => .ok keywords
    | none => .error .noKeyword

/-- The duration of an interval. -/
def intervalOf (path : Yaml.Path) (word : String) : Except SettingsFault Duration :=
  match Duration.parse word with
  | .ok d => .ok d
  | .error .malformed => .error (.document (.wrongText path word "a duration"))
  | .error .breakdown => .error .breakdown

/-- The capacity of a listener, at least one. -/
def capacityOf (n : Nat) : Except SettingsFault Nat :=
  if n = 0 then .error .zeroCapacity else .ok n

/-- Reads the value of a field, and returns the parts behind it. -/
def readValue (d : Yaml.Document) (draft : Draft) (key : Option String) (field : Field)
    (parts : List Yaml.Part) : Except SettingsFault (Draft × List Yaml.Part) :=
  match field, parts with
  | .failureKeywords, parts => do
    let (words, rest) ← lift (d.readSequence key parts)
    let keywords ← keywordsOf words
    return ({ draft with failureKeywords := some keywords }, rest)
  | _, [] => .error (.document .malformed)
  | .fetchInterval, part :: rest => do
    let word ← lift ((d.head part).word (.field key) "a duration")
    let interval ← intervalOf (.field key) word
    return ({ draft with fetchInterval := some interval }, rest)
  | .listenerCapacity, part :: rest => do
    let n ← lift ((d.head part).count (.field key) "usize")
    let capacity ← capacityOf n
    return ({ draft with listenerCapacity := some capacity }, rest)

theorem length_lt_of_readValue {d : Yaml.Document} {draft draft' : Draft}
    {key : Option String} {field : Field} {parts rest : List Yaml.Part}
    (h : readValue d draft key field parts = .ok (draft', rest)) :
    rest.length < parts.length := by
  unfold readValue at h
  split at h
  · cases hs : d.readSequence key parts with
    | error fault =>
        simp only [hs, lift, bind, Except.bind] at h
        cases h
    | ok read =>
        cases hk : keywordsOf read.1 with
        | error fault =>
            simp only [hs, hk, lift, bind, Except.bind] at h
            cases h
        | ok keywords =>
            simp only [hs, hk, lift, bind, Except.bind, pure, Except.pure] at h
            cases h
            exact d.length_readSequence_lt key hs
  · cases h
  · next part rest =>
      simp only [bind, Except.bind] at h
      split at h
      · cases h
      · split at h
        · cases h
        · cases h
          simp
  · next part rest =>
      simp only [bind, Except.bind] at h
      split at h
      · cases h
      · split at h
        · cases h
        · cases h
          simp

/-- Reads entries up to the end of the mapping. -/
def readEntries (d : Yaml.Document) (draft : Draft) (parts : List Yaml.Part) :
    Except SettingsFault Draft :=
  match parts with
  | [] => .error (.document .malformed)
  | .mappingEnd :: _ => .ok draft
  | part :: rest =>
    match d.readKey part with
    | .error fault => .error (.document fault)
    | .ok (name, key) =>
      match Field.ofName? name with
      | none => .error (.document (.unknownField name (Field.all.map Field.name)))
      | some field =>
        if field.isRead draft then .error (.document (.duplicateField name))
        else
          match h : readValue d draft key field rest with
          | .error fault => .error fault
          | .ok (draft, after) =>
            have := length_lt_of_readValue h
            readEntries d draft after
termination_by parts.length

/-- Reads settings from a document. -/
def ofDocument (d : Yaml.Document) : Except SettingsFault Settings := do
  let parts ← lift (d.entries "struct StreamerConfig")
  let draft ← readEntries d {} parts
  lift d.finish
  return ofDraft draft

end Settings

/-- Why there are no settings. -/
inductive SettingsError where
  | unread (fault : SettingsFault)
  | invalid (flaw : SettingsFlaw)
deriving DecidableEq, Repr

namespace SettingsError

def message? : SettingsError → Option String
  | unread fault => fault.message?.map ("YAML parse error: " ++ ·)
  | invalid flaw => some ("invalid configuration: " ++ flaw.message)

end SettingsError

namespace Settings

/-- The settings, if they have no flaw. -/
def validate (s : Settings) : Except SettingsError Settings :=
  match s.flaw? with
  | some flaw => .error (.invalid flaw)
  | none => .ok s

/-- Reads settings from a text and looks for flaws. -/
def ofYaml (text : String) : Except SettingsError Settings :=
  match ofDocument (.ofText text) with
  | .error fault => .error (.unread fault)
  | .ok settings => settings.validate

end Settings

end RolloutWatch
