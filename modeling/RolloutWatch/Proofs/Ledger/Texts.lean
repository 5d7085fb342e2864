import Mathlib.Data.Finset.Card
import RolloutWatch.Ledger

/-!
# A ledger as a finite set of texts

What a new ledger comes to hold is the set of the texts that were entered. An insertion
answers whether its text is new, a question whether its text is known, and the size is the
number of different texts. In which order they were entered, what was asked in between, and
which hasher the ledger has is of no importance.

An insertion searches with an identifier and a question with a text. `Holds` is about
questions. It carries over to insertions because identifiers are equal and are hashed as
their texts are.
-/

namespace RolloutWatch

/-- The text that an action enters. -/
def LedgerAction.text? : LedgerAction → Option String
  | insert event => some event.text
  | contains _ => none

theorem LedgerAction.text?_eq_some {action : LedgerAction} {text : String} :
    action.text? = some text ↔ ∃ event, action = .insert event ∧ event.text = text := by
  cases action <;> simp [text?]

namespace Ledger

/-- The texts that some actions enter, in order and with their repetitions. -/
def entered (actions : List LedgerAction) : List String :=
  actions.filterMap LedgerAction.text?

theorem mem_entered {actions : List LedgerAction} {text : String} :
    text ∈ entered actions ↔ ∃ event, .insert event ∈ actions ∧ event.text = text := by
  rw [entered, List.mem_filterMap]
  constructor
  · rintro ⟨_, member, enters⟩
    obtain ⟨event, rfl, same⟩ := LedgerAction.text?_eq_some.mp enters
    exact ⟨event, member, same⟩
  · rintro ⟨event, member, same⟩
    exact ⟨.insert event, member, LedgerAction.text?_eq_some.mpr ⟨event, rfl, same⟩⟩

theorem entered_eq_nil {actions : List LedgerAction} :
    entered actions = [] ↔ ∀ event, .insert event ∉ actions := by
  simp only [List.eq_nil_iff_forall_not_mem, mem_entered]
  constructor
  · intro none event member
    exact none event.text ⟨event, member, rfl⟩
  · rintro none text ⟨event, member, _⟩
    exact none event member

/-- The ledger that some actions lead to. -/
def behind (ledger : Ledger) (actions : List LedgerAction) : Ledger :=
  actions.foldl (fun ledger action => (ledger.act action).1) ledger

@[simp] theorem length_run (actions : List LedgerAction) :
    ∀ ledger : Ledger, (run ledger actions).length = actions.length := by
  induction actions with
  | nil =>
      intro ledger
      rfl
  | cons action rest ih =>
      intro ledger
      exact congrArg (· + 1) (ih _)

/-- Each action is performed on the ledger that those before it lead to. -/
theorem getElem?_run (actions : List LedgerAction) :
    ∀ (ledger : Ledger) (place : Nat), (run ledger actions)[place]? =
      actions[place]?.map fun action => (ledger.behind (actions.take place)).act action := by
  induction actions with
  | nil =>
      intro ledger place
      rfl
  | cons action rest ih =>
      intro ledger place
      cases place with
      | zero => rfl
      | succ place => exact ih (ledger.act action).1 place

theorem behind_snoc (ledger : Ledger) (actions : List LedgerAction) (action : LedgerAction) :
    ledger.behind (actions ++ [action]) = ((ledger.behind actions).act action).1 := by
  rw [behind, List.foldl_append]
  rfl

/-- A ledger holds the events with these texts, and no others. -/
def Holds (ledger : Ledger) (texts : List String) : Prop :=
  ∀ text : String, ledger.contains text = true ↔ text ∈ texts

namespace Holds

variable {ledger : Ledger} {texts : List String}

theorem empty (hasher : Hasher) : Holds (.withHasher hasher) [] :=
  fun _ => iff_of_false Bool.false_ne_true List.not_mem_nil

/-- An action adds the text that it enters. -/
theorem act (h : ledger.Holds texts) (action : LedgerAction) :
    (ledger.act action).1.Holds (texts ++ action.text?.toList) := by
  intro text
  rw [List.mem_append, ← h text]
  cases action with
  | insert event =>
      rw [LedgerAction.text?, Option.mem_toList, Option.some_inj]
      exact IdentifierSet.contains_insert.trans (or_congr_right eq_comm)
  | contains asked => simp [Ledger.act, LedgerAction.text?]

/-- Actions add the texts that they enter, by induction on the actions. -/
theorem behind (actions : List LedgerAction) :
    ∀ {ledger : Ledger} {texts : List String}, ledger.Holds texts →
      (ledger.behind actions).Holds (texts ++ entered actions) := by
  induction actions with
  | nil =>
      intro ledger texts h
      rwa [entered, List.filterMap_nil, List.append_nil]
  | cons action rest ih =>
      intro ledger texts h
      have later := ih (h.act action)
      have split : entered (action :: rest) = action.text?.toList ++ entered rest := by
        rw [entered, List.filterMap_cons]
        cases action.text? <;> rfl
      rwa [split, ← List.append_assoc]

theorem mem_iff (h : ledger.Holds texts) {text : String} :
    text ∈ ledger.members.map (·.text) ↔ text ∈ texts := by
  rw [← h text, IdentifierSet.contains_iff, List.mem_map]
  constructor
  · rintro ⟨event, member, rfl⟩
    exact member
  · intro member
    exact ⟨_, member, rfl⟩

/-- The size counts every text once. -/
theorem size_eq (h : ledger.Holds texts) : ledger.size = texts.toFinset.card := by
  -- Members with one text would be one member, so their texts repeat no more than they do.
  have distinct : (ledger.members.map (·.text)).Nodup :=
    ledger.nodup.map fun _ _ => Identifier.ext
  have same : (ledger.members.map (·.text)).toFinset = texts.toFinset := by
    ext text
    rw [List.mem_toFinset, List.mem_toFinset, h.mem_iff]
  rw [← same, List.toFinset_card_of_nodup distinct, List.length_map, HashSet.size]

theorem isEmpty_iff (h : ledger.Holds texts) : ledger.isEmpty = true ↔ texts = [] := by
  have none : ledger.members = [] ↔ ledger.members.map (·.text) = [] := List.map_eq_nil_iff.symm
  rw [HashSet.isEmpty, List.isEmpty_iff, none, List.eq_nil_iff_forall_not_mem,
    List.eq_nil_iff_forall_not_mem]
  exact forall_congr' fun text => not_congr h.mem_iff

/-- An insertion answers whether no event with its text was held. -/
theorem insert_iff (h : ledger.Holds texts) (event : Identifier .event) :
    (ledger.act (.insert event)).2 = true ↔ event.text ∉ texts := by
  rw [Ledger.act, HashSet.enter_snd, Bool.not_eq_true', ← Bool.not_eq_true,
    ← HashSet.contains_borrow (β := String)]
  exact not_congr (h event.text)

/-- Ledgers with the same texts are no different to those who ask. -/
theorem agree {other : Ledger} {others : List String} (h : ledger.Holds texts)
    (h' : other.Holds others) (same : others.toFinset = texts.toFinset) :
    other.size = ledger.size ∧ ∀ text : String, other.contains text = ledger.contains text := by
  refine ⟨by rw [h.size_eq, h'.size_eq, same], fun text => Bool.eq_iff_iff.mpr ?_⟩
  rw [h text, h' text, ← List.mem_toFinset, same, List.mem_toFinset]

end Holds

/-- What a new ledger holds behind some actions. -/
theorem holds_behind (hasher : Hasher) (actions : List LedgerAction) :
    (behind (.withHasher hasher) actions).Holds (entered actions) :=
  Holds.behind actions (.empty hasher)

/-- A new ledger answers every sequence of insertions and questions like a finite set of texts,
whatever its hasher. An insertion learns that it is new if and only if no earlier one had its text,
and a question learns that its text is known if and only if some earlier insertion had it. Behind
each action the size is the number of different texts inserted so far, and the ledger is empty if
and only if nothing was inserted.

Actions that insert the same texts in another order lead to a ledger of the same size with the same
members, whatever is asked in between and also with another hasher. -/
theorem answers_as_finite_set (hasher : Hasher) (actions : List LedgerAction) :
    let new : Ledger := .withHasher hasher
    (run new actions).length = actions.length ∧
      (∀ (place : Nat) ledger answer, (run new actions)[place]? = some (ledger, answer) →
        (∀ event, actions[place]? = some (.insert event) →
          (answer = true ↔
            ¬∃ earlier, .insert earlier ∈ actions.take place ∧ earlier.text = event.text)) ∧
        (∀ text, actions[place]? = some (.contains text) →
          (answer = true ↔
            ∃ earlier, .insert earlier ∈ actions.take place ∧ earlier.text = text)) ∧
        ledger = behind new (actions.take (place + 1)) ∧
        ledger.size = (entered (actions.take (place + 1))).toFinset.card ∧
        (ledger.isEmpty = true ↔ ∀ event, .insert event ∉ actions.take (place + 1))) ∧
      ∀ other others, (entered others).Perm (entered actions) →
        (behind (.withHasher other) others).size = (behind new actions).size ∧
          ∀ text : String,
            (behind (.withHasher other) others).contains text =
              (behind new actions).contains text := by
  intro new
  refine ⟨length_run actions new, ?_, fun other others order => ?_⟩
  · intro place ledger answer turn
    have before := holds_behind hasher (actions.take place)
    have after := holds_behind hasher (actions.take (place + 1))
    rw [getElem?_run] at turn
    obtain ⟨action, here, acted⟩ := Option.map_eq_some_iff.mp turn
    have left : ledger = behind new (actions.take (place + 1)) := by
      rw [List.take_add_one, here, Option.toList_some, behind_snoc, acted]
    have given : ((behind new (actions.take place)).act action).2 = answer :=
      congrArg Prod.snd acted
    rw [← given, left]
    refine ⟨fun event inserts => ?_, fun text asks => ?_, rfl, after.size_eq,
      after.isEmpty_iff.trans entered_eq_nil⟩
    · cases here.symm.trans inserts
      rw [before.insert_iff, mem_entered]
    · cases here.symm.trans asks
      exact (before text).trans mem_entered
  · exact (holds_behind hasher actions).agree (holds_behind other others)
      (List.toFinset_eq_of_perm _ _ order)

/-- One event is inserted twice, and asked for before, behind, and in another spelling. -/
def insertedAgain : List LedgerAction :=
  [.contains "e1", .insert ⟨"e1"⟩, .insert ⟨"e2"⟩, .insert ⟨"e1"⟩, .contains "e1", .contains "E1"]

/-- The same insertions in another order. -/
def insertedInTurn : List LedgerAction :=
  [.insert ⟨"e1"⟩, .insert ⟨"e1"⟩, .contains "e2", .insert ⟨"e2"⟩]

/-- All keys have one digest. -/
def collidingHasher : Hasher where
  digest _ := 0

theorem answers_as_finite_set_insertedAgain :
    let new : Ledger := .withHasher collidingHasher
    (∃ ledger, (run new insertedAgain)[3]? = some (ledger, false) ∧
      insertedAgain[3]? = some (.insert ⟨"e1"⟩) ∧
      (false = true ↔
        ¬∃ earlier, .insert earlier ∈ insertedAgain.take 3 ∧ earlier.text = "e1") ∧
      ledger.size = (entered (insertedAgain.take 4)).toFinset.card ∧ ledger.size = 2) ∧
      (∃ ledger, (run new insertedAgain)[4]? = some (ledger, true) ∧
        insertedAgain[4]? = some (.contains "e1") ∧
        (true = true ↔ ∃ earlier, .insert earlier ∈ insertedAgain.take 4 ∧ earlier.text = "e1")) ∧
      (entered insertedInTurn).Perm (entered insertedAgain) ∧
      (behind (.withHasher default) insertedInTurn).size = (behind new insertedAgain).size ∧
      (behind (.withHasher default) insertedInTurn).contains "e2" =
        (behind new insertedAgain).contains "e2" := by
  intro new
  obtain ⟨_, turns, orders⟩ := answers_as_finite_set collidingHasher insertedAgain
  have third : (run new insertedAgain)[3]? = some (behind new (insertedAgain.take 4), false) := rfl
  have fourth : (run new insertedAgain)[4]? = some (behind new (insertedAgain.take 5), true) := rfl
  obtain ⟨inserts, _, _, size, _⟩ := turns 3 _ _ third
  obtain ⟨_, asks, _⟩ := turns 4 _ _ fourth
  have order : (entered insertedInTurn).Perm (entered insertedAgain) := by decide +kernel
  obtain ⟨same, members⟩ := orders default insertedInTurn order
  exact ⟨⟨_, third, rfl, inserts ⟨"e1"⟩ rfl, size, by decide +kernel⟩,
    ⟨_, fourth, rfl, asks "e1" rfl⟩, order, same, members "e2"⟩

end Ledger

end RolloutWatch
