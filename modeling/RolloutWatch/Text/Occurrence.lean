/-!
# Occurrence of one text in another

A word occurs in a text when some stretch of consecutive characters of the text
is the word, character by character. Letter case counts, and no characters are
identified with one another. The empty word occurs in every text.

`occurs_iff` ties the running test to the library's relation of consecutive
sublists.
-/

namespace RolloutWatch.Text

/-- Tests whether `word` occurs in a text, trying the places from left to right. -/
def occurs (word : List Char) : List Char → Bool
  | [] => word.isEmpty
  | c :: rest => word.isPrefixOf (c :: rest) || occurs word rest

theorem occurs_iff {word text : List Char} : occurs word text = true ↔ word <:+: text := by
  induction text with
  | nil => simp [occurs]
  | cons c rest ih =>
      rw [occurs, Bool.or_eq_true, List.isPrefixOf_iff_prefix, ih, List.infix_cons_iff]

end RolloutWatch.Text
