/-!
# Places in a YAML text

A cursor is the rest of a text together with the place where the rest begins:
how many bytes lie before it, how many line breaks, and how many characters since
the last of those. The characters that end a line are the carriage return,
the line feed, the two together, the next-line character, and the line and
paragraph separators; the last two are content of their own where lines are
joined, and all others count as a line feed.
-/

namespace RolloutWatch.Yaml

/-- The characters of a text that YAML admits. -/
def isAdmitted (c : Char) : Bool :=
  let n := c.toNat
  n == 0x09 || n == 0x0A || n == 0x0D || (0x20 ≤ n && n ≤ 0x7E) || n == 0x85
    || (0xA0 ≤ n && n ≤ 0xD7FF) || (0xE000 ≤ n && n ≤ 0xFFFD) || 0x10000 ≤ n

def isBreak (c : Char) : Bool :=
  c == '\n' || c == '\r' || c == '\u0085' || c == '\u2028' || c == '\u2029'

/-- The blanks within a line. -/
def isSpace (c : Char) : Bool :=
  c == ' ' || c == '\t'

/-- Letters, digits, the low line and the hyphen, all of ASCII. -/
def isWord (c : Char) : Bool :=
  c.isAlphanum || c == '_' || c == '-'

/-- Whether a text begins with a blank or a line break, or has ended. -/
def atGap : List Char → Bool
  | [] => true
  | c :: _ => isSpace c || isBreak c

/-- Whether a text begins with a line break, or has ended. -/
def atLineEnd : List Char → Bool
  | [] => true
  | c :: _ => isBreak c

/-- Whether a text begins with a mark between documents, at the start of a line. -/
def atDocumentMark : List Char → Bool
  | '-' :: '-' :: '-' :: rest => atGap rest
  | '.' :: '.' :: '.' :: rest => atGap rest
  | _ => false

/-- The number of bytes of a text. -/
def byteCount (text : List Char) : Nat :=
  text.foldl (fun count c => count + c.utf8Size) 0

/-- A place in a text, and the text from there on. -/
structure Cursor where
  rest : List Char
  /-- The number of bytes before the place. -/
  index : Nat := 0
  line : Nat := 0
  column : Nat := 0
deriving Repr

namespace Cursor

/-- Passes over characters of the same line. -/
def skip (count : Nat) (here : Cursor) : Cursor :=
  { here with
    rest := here.rest.drop count
    index := here.index + byteCount (here.rest.take count)
    column := here.column + count }

/-- Passes over the longest run of characters of this kind. None may end a line. -/
def skipWhile (p : Char → Bool) (here : Cursor) : Cursor :=
  here.skip (here.rest.takeWhile p).length

/-- Passes over a line break of `count` characters. -/
def nextLine (count : Nat) (here : Cursor) : Cursor :=
  { rest := here.rest.drop count
    index := here.index + byteCount (here.rest.take count)
    line := here.line + 1
    column := 0 }

/-- Reads a line break: what it counts as, and the place behind it. -/
def takeBreak? (here : Cursor) : Option (Char × Cursor) :=
  match here.rest with
  | '\r' :: '\n' :: _ => some ('\n', here.nextLine 2)
  | c :: _ =>
    if c == '\u2028' || c == '\u2029' then some (c, here.nextLine 1)
    else if isBreak c then some ('\n', here.nextLine 1)
    else none
  | [] => none

/-- Passes over the rest of the line, up to its break. -/
def skipLine (here : Cursor) : Cursor :=
  here.skipWhile fun c => !isBreak c

@[simp] theorem rest_skip (count : Nat) (here : Cursor) :
    (here.skip count).rest = here.rest.drop count := rfl

@[simp] theorem rest_nextLine (count : Nat) (here : Cursor) :
    (here.nextLine count).rest = here.rest.drop count := rfl

theorem length_skipWhile_le (p : Char → Bool) (here : Cursor) :
    (here.skipWhile p).rest.length ≤ here.rest.length := by
  simp [skipWhile]

theorem length_lt_of_takeBreak? {here next : Cursor} {c : Char}
    (h : here.takeBreak? = some (c, next)) : next.rest.length < here.rest.length := by
  unfold takeBreak? at h
  split at h
  · next same =>
      cases h
      rw [rest_nextLine, same, List.length_drop]
      exact Nat.sub_lt (Nat.succ_pos _) Nat.two_pos
  · next same =>
      split at h
      · cases h
        simp [same]
      · split at h
        · cases h
          simp [same]
        · cases h
  · cases h

end Cursor

end RolloutWatch.Yaml
