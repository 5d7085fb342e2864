/-!
# Blank characters

The Unicode property `White_Space`: the characters that separate words without
being part of one. The byte order mark and the zero-width space do not have it.
-/

namespace RolloutWatch.Text

/-- Whether the character has the property `White_Space`. -/
def isBlank (c : Char) : Bool :=
  let n := c.toNat
  (9 ≤ n && n ≤ 13) || n == 0x20 || n == 0x85 || n == 0xA0 || n == 0x1680
    || (0x2000 ≤ n && n ≤ 0x200A) || n == 0x2028 || n == 0x2029 || n == 0x202F
    || n == 0x205F || n == 0x3000

/-- The text without the blanks in front. -/
def trimLeft (text : List Char) : List Char :=
  text.dropWhile isBlank

@[simp] theorem length_trimLeft_le (text : List Char) : (trimLeft text).length ≤ text.length := by
  simpa [trimLeft] using (List.dropWhile_sublist isBlank (l := text)).length_le

end RolloutWatch.Text
