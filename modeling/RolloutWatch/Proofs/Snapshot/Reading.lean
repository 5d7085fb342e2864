import RolloutWatch.Proofs.Json.Quoted
import RolloutWatch.Proofs.Text.Numeral
import RolloutWatch.Snapshot.Reading

/-!
# Snapshots come back from JSON

A reader takes what was written for a value off the front of a text and gives the value, whatever
the text goes on with. Only a number has to know where it ends, and nothing that follows a value in
a record or in a list begins with a digit. `Reads` says this of one value, and it is carried from
the values to the fields, the lists and the records that hold them. So a snapshot can be read from
its JSON, and no other snapshot has the same.
-/

namespace RolloutWatch

namespace Json

variable {α β : Type} {reader : Reader α} {next : α → Reader β} {value : α} {result : β}
  {values : List α} {written later rest text : List Char} {c mark : Char} {name : String}

/-- A number that stands in front of the text ends there. -/
def EndsNumber (text : List Char) : Prop :=
  ∀ c ∈ text.head?, c.isDigit = false

theorem endsNumber_nil : EndsNumber [] :=
  nofun

theorem endsNumber_cons (other : c.isDigit = false) : EndsNumber (c :: text) := by
  intro d first
  cases first
  exact other

theorem EndsNumber.append (ends : EndsNumber text) (ends' : EndsNumber rest) :
    EndsNumber (text ++ rest) := by
  cases text with
  | nil => exact ends'
  | cons c text => exact endsNumber_cons (ends c rfl)

/-- In front of whatever ends a number, the reader takes off exactly what was written and gives the
value. -/
def Reads (reader : Reader α) (written : List Char) (value : α) : Prop :=
  ∀ rest, EndsNumber rest → reader (written ++ rest) = some (value, rest)

theorem reads_text (text : String) : Reads readText (quote text.toList) text := by
  intro rest _
  have spelled : quote text.toList ++ rest =
      '"' :: (text.toList.flatMap escapeChar ++ '"' :: rest) := by simp [quote]
  rw [spelled, readText, readQuoted_escaped, Option.map_some, String.ofList_toList]

theorem reads_number (n : Nat) : Reads readNumber (number n) n := by
  intro rest ends
  have digits : ∀ c ∈ number n, c.isDigit = true := fun c member =>
    Nat.isDigit_of_mem_toDigits (by decide) (by decide) member
  have front : (number n ++ rest).takeWhile (·.isDigit) = number n := by
    rw [List.takeWhile_append_of_pos digits]
    cases rest with
    | nil => simp
    | cons c rest => simp [ends c rfl]
  have back : (number n ++ rest).dropWhile (·.isDigit) = rest := by
    rw [List.dropWhile_append_of_pos digits]
    cases rest with
    | nil => rfl
    | cons c rest => simp [ends c rfl]
  have inhabited : ¬(number n).isEmpty = true := by
    rw [List.isEmpty_iff]
    exact Nat.toDigits_ne_nil
  rw [readNumber, front, back, if_neg inhabited, number, Text.decimal_toDigits]

theorem skip_append (expected rest : List Char) :
    skip expected (expected ++ rest) = some ((), rest) := by
  have front : expected.isPrefixOf (expected ++ rest) = true :=
    List.isPrefixOf_iff_prefix.mpr (List.prefix_append expected rest)
  rw [skip, if_pos front, List.drop_left]

theorem bind_apply (reader : Reader α) (next : α → Reader β) (text : List Char) :
    (reader >>= next) text = (reader text).bind fun r => next r.1 r.2 := rfl

/-- A reader behind a field. -/
theorem Reads.field_bind (first : Reads reader written value) (ends : EndsNumber later)
    (second : Reads (next value) later result) :
    Reads (readField mark name reader >>= next) (mark :: (field name written ++ later)) result := by
  intro rest behind
  have spelled : mark :: (field name written ++ later) ++ rest =
      (mark :: quote name.toList ++ [':']) ++ (written ++ (later ++ rest)) := by simp [field]
  rw [spelled, bind_apply, readField, bind_apply, skip_append, Option.bind_some,
    first _ (ends.append behind), Option.bind_some]
  exact second rest behind

/-- The end of a record. -/
theorem reads_close (value : α) :
    Reads (do skip ['\x7d']; return value) ['\x7d'] value := by
  intro rest _
  rw [bind_apply, skip_append]
  rfl

theorem separated_cons (item : List Char) (items : List (List Char)) :
    separated (item :: items) = item ++ items.flatMap (',' :: ·) := by
  induction items generalizing item with
  | nil => simp [separated]
  | cons next items ih => simp [separated, ih]

/-- Items are read up to the end of their list, by induction on them. -/
theorem readItems_written {write : α → List Char}
    (each : ∀ value ∈ values, Reads reader (write value) value) (rest : List Char) :
    readItems reader ((values.map write).flatMap (',' :: ·) ++ ']' :: rest) =
      some (values, rest) := by
  induction values with
  | nil => rw [List.map_nil, List.flatMap_nil, List.nil_append, readItems]
  | cons value values ih =>
      rw [List.forall_mem_cons] at each
      have ends : EndsNumber ((values.map write).flatMap (',' :: ·) ++ ']' :: rest) := by
        cases values with
        | nil => exact endsNumber_cons rfl
        | cons _ _ => exact endsNumber_cons rfl
      rw [List.map_cons, List.flatMap_cons, List.cons_append, List.cons_append, List.append_assoc,
        readItems, each.1 _ ends]
      simp only [List.length_append, Nat.le_add_left, if_true, ih each.2, Option.map_some]

/-- A list is read if its items are and none of them begins like the end of the list. -/
theorem reads_list {write : α → List Char}
    (each : ∀ value ∈ values, Reads reader (write value) value)
    (opens : ∀ value ∈ values, ∃ c text, write value = c :: text ∧ c ≠ ']') :
    Reads (readList reader) (list (values.map write)) values := by
  intro rest _
  have items := readItems_written each rest
  cases values with
  | nil => rfl
  | cons value values =>
      obtain ⟨c, text, begins, other⟩ := opens value (List.mem_cons_self ..)
      rw [List.map_cons, List.flatMap_cons, begins] at items
      rw [List.map_cons, list, separated_cons, begins]
      simp only [List.cons_append, List.append_assoc, List.nil_append] at items ⊢
      rw [readList, items]
      -- The list does not end where the first item begins.
      intro _ same
      exact other (List.cons.inj same).1

end Json

open Json

theorem Deployment.reads_json (d : Deployment) : Reads Deployment.reader d.json d := by
  simp only [Deployment.json, record, separated, List.cons_append, List.append_assoc]
  refine (reads_text d.status).field_bind (endsNumber_cons rfl) ?_
  refine (reads_text d.revision).field_bind (endsNumber_cons rfl) ?_
  refine (reads_number d.desiredCount).field_bind (endsNumber_cons rfl) ?_
  refine (reads_number d.runningCount).field_bind (endsNumber_cons rfl) ?_
  refine (reads_number d.failedCount).field_bind (endsNumber_cons rfl) ?_
  refine (reads_number d.pendingCount).field_bind (endsNumber_cons rfl) ?_
  refine (reads_text d.rolloutState).field_bind (endsNumber_cons rfl) ?_
  exact reads_close d

namespace Snapshot

theorem reads_json (s : Snapshot) : Reads Snapshot.reader s.json s := by
  have deployments : Reads (readList Deployment.reader)
      (list (s.deployments.map Deployment.json)) s.deployments :=
    reads_list (fun d _ => d.reads_json) fun d _ => ⟨_, _, rfl, by decide⟩
  have failures : Reads (readList readText)
      (list (s.failures.map fun text => quote text.toList)) s.failures :=
    reads_list (fun text _ => reads_text text) fun text _ => ⟨_, _, rfl, by decide⟩
  simp only [Snapshot.json, record, separated, List.cons_append, List.append_assoc]
  refine deployments.field_bind (endsNumber_cons rfl) ?_
  refine failures.field_bind (endsNumber_cons rfl) ?_
  exact reads_close s

theorem ofJson?_toJson (s : Snapshot) : ofJson? s.toJson = some s := by
  have read := s.reads_json [] endsNumber_nil
  rw [List.append_nil] at read
  rw [ofJson?, toJson, String.toList_ofList, read]

theorem toJson_injective : Function.Injective toJson := by
  have read : ofJson? ∘ toJson = some := funext ofJson?_toJson
  apply Function.Injective.of_comp
  rw [read]
  exact Option.some_injective Snapshot

/-- A snapshot can be read from its JSON. So two snapshots have the same JSON exactly if they are the
same. -/
theorem json_loses_nothing :
    (∀ s : Snapshot, ofJson? s.toJson = some s) ∧
      ∀ s other : Snapshot, s.toJson = other.toJson ↔ s = other := by
  exact ⟨ofJson?_toJson, fun s other => toJson_injective.eq_iff⟩

/-- A message that looks like the end of its list, and one that would escape the quote behind it. -/
example : toJson { deployments := [], failures := ["\"]", "\\"] } =
    "\x7b\"deployments\":[],\"failure_events\":[\"\\\"]\",\"\\\\\"]\x7d" := by
  decide +kernel

end Snapshot

end RolloutWatch
