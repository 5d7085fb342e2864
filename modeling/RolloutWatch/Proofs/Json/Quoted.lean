import Mathlib.Data.Option.Basic
import RolloutWatch.Json.Quoted

/-!
# Strings of JSON are read as they were written

Each character is written in one of three ways: by a short escape, by its code point, or as
itself. Whatever the text goes on with, the reader takes off exactly what was written for one
character and gives that character. So a written text is taken off the front of whatever holds
it, up to the closing quote, and no two texts are written alike.
-/

namespace RolloutWatch.Json

variable {c char : Char} {unit : Nat}

theorem readQuoted_short (short : shortEscape? c = some char) (rest : List Char) :
    readQuoted ('\\' :: c :: rest) = (readQuoted rest).map fun r => (char :: r.1, r.2) := by
  have long : c ≠ 'u' := by
    rintro rfl
    cases short
  rw [readQuoted, short] <;> simp [long]

/-- A code unit that is no half of a pair stands for itself, also where another one follows. -/
theorem readQuoted_unit {a b c d : Char} (digits : hexNumber? a b c d = some unit)
    (whole : ofUnit? unit = some char) (rest : List Char) :
    readQuoted ('\\' :: 'u' :: a :: b :: c :: d :: rest) =
      (readQuoted rest).map fun r => (char :: r.1, r.2) := by
  by_cases another : ∃ e f g h later, rest = '\\' :: 'u' :: e :: f :: g :: h :: later
  · obtain ⟨e, f, g, h, later, rfl⟩ := another
    simp only [readQuoted.eq_3, digits, whole]
  · rw [readQuoted, digits, Option.bind_some, whole]
    intro e f g h later same
    exact another ⟨e, f, g, h, later, same⟩

theorem readQuoted_plain (visible : ¬c.toNat < 0x20) (unquoted : c ≠ '"') (unescaped : c ≠ '\\')
    (rest : List Char) :
    readQuoted (c :: rest) = (readQuoted rest).map fun r => (c :: r.1, r.2) := by
  rw [readQuoted, if_neg] <;> simp_all

/-- Two hexadecimal digits are enough for every control character. -/
theorem hexNumber?_hexDigits :
    ∀ n < 0x20, hexNumber? '0' '0' (hexDigit (n / 16)) (hexDigit (n % 16)) = some n := by
  decide

theorem ofUnit?_toNat (c : Char) : ofUnit? c.toNat = some c := by
  have valid : c.toNat.isValidChar := c.valid
  rw [ofUnit?, dif_pos valid]
  rfl

/-- The reader takes off what was written for one character, by cases on how that was done. -/
theorem readQuoted_escapeChar_append (c : Char) (rest : List Char) :
    readQuoted (escapeChar c ++ rest) = (readQuoted rest).map fun r => (c :: r.1, r.2) := by
  unfold escapeChar
  split
  case h_8 unquoted unescaped _ _ _ _ _ =>
    split
    case isTrue control =>
      exact readQuoted_unit (hexNumber?_hexDigits c.toNat control) (ofUnit?_toNat c) rest
    case isFalse visible => exact readQuoted_plain visible unquoted unescaped rest
  all_goals exact readQuoted_short rfl rest

/-- A written text is read up to its closing quote, by induction on the text. -/
theorem readQuoted_escaped (text rest : List Char) :
    readQuoted (text.flatMap escapeChar ++ '"' :: rest) = some (text, rest) := by
  induction text with
  | nil => rw [List.flatMap_nil, List.nil_append, readQuoted]
  | cons c text ih =>
      rw [List.flatMap_cons, List.append_assoc, readQuoted_escapeChar_append, ih]
      rfl

theorem unquote?_quote (text : List Char) : unquote? (quote text) = some text := by
  have opening : (quote text).dropWhile isSpace = '"' :: (text.flatMap escapeChar ++ ['"']) := by
    rw [quote, List.cons_append, List.dropWhile_cons_of_neg (by decide)]
  rw [unquote?, opening]
  simp only [readQuoted_escaped, List.all_nil, if_true]

theorem quote_injective : Function.Injective quote := by
  have read : unquote? ∘ quote = some := funext unquote?_quote
  apply Function.Injective.of_comp
  rw [read]
  exact Option.some_injective (List Char)

end RolloutWatch.Json
