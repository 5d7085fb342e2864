/-!
# Places in messages

A message may say where in a text something stands, as in ` at line 3 column 14`.
`withoutPlaces` leaves out every such mention, so that two messages are the same
if they differ in nothing but the places they name.
-/

namespace RolloutWatch.Text

/-- What follows a number at the beginning of a text. -/
def dropNumber? (text : List Char) : Option (List Char) :=
  match text with
  | c :: rest => if c.isDigit then some (rest.dropWhile (·.isDigit)) else none
  | [] => none

/-- What follows a phrase at the beginning of a text. -/
def dropPhrase? (phrase : String) (text : List Char) : Option (List Char) :=
  if phrase.toList.isPrefixOf text then some (text.drop phrase.length) else none

/-- What follows the mention of a place at the beginning of a text. -/
def dropPlace? (text : List Char) : Option (List Char) := do
  let line ← dropPhrase? " at line " text
  let behindLine ← dropNumber? line
  let column ← dropPhrase? " column " behindLine
  dropNumber? column

theorem length_le_of_dropPhrase? {phrase : String} {text rest : List Char}
    (h : dropPhrase? phrase text = some rest) : rest.length ≤ text.length := by
  unfold dropPhrase? at h
  split at h
  · cases h
    exact (List.drop_sublist _ _).length_le
  · cases h

theorem length_lt_of_dropNumber? {text rest : List Char} (h : dropNumber? text = some rest) :
    rest.length < text.length := by
  cases text with
  | nil => cases h
  | cons c text =>
      simp only [dropNumber?] at h
      split at h
      · cases h
        exact Nat.lt_succ_of_le (List.dropWhile_sublist _).length_le
      · cases h

theorem length_lt_of_dropPlace? {text rest : List Char} (h : dropPlace? text = some rest) :
    rest.length < text.length := by
  simp only [dropPlace?, bind, Option.bind_eq_some_iff] at h
  obtain ⟨line, hline, behindLine, hnumber, column, hcolumn, hlast⟩ := h
  have first := length_le_of_dropPhrase? hline
  have second := length_lt_of_dropNumber? hnumber
  have third := length_le_of_dropPhrase? hcolumn
  have fourth := length_lt_of_dropNumber? hlast
  omega

/-- The text without the mentions of places in it. -/
def removePlaces (text : List Char) : List Char :=
  match h : dropPlace? text with
  | some rest =>
    have := length_lt_of_dropPlace? h
    removePlaces rest
  | none =>
    match text with
    | [] => []
    | c :: rest => c :: removePlaces rest
termination_by text.length

/-- A message without the mentions of places in it. -/
def withoutPlaces (message : String) : String :=
  String.ofList (removePlaces message.toList)

end RolloutWatch.Text
