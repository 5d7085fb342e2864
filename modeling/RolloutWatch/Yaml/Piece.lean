import RolloutWatch.Yaml.Cursor

/-!
# Pieces of a YAML text

A text is taken in pieces, each of as many whole characters as fit into 16384
bytes. A piece with a character that YAML does not admit cannot be taken at all, so
that only what stands in front of it can be read.
-/

namespace RolloutWatch.Yaml

/-- The room of a piece in bytes. -/
def pieceRoom : Nat := 16384

/-- The number of characters in front of the first piece that cannot be taken, if
there is one. In front of the rest of the text, `count` characters with `bytes` bytes
already belong to a piece, and `start` characters to the pieces before it. -/
def readableCount? (start count bytes : Nat) : List Char → Option Nat
  | [] => none
  | c :: rest =>
    if pieceRoom < bytes + c.utf8Size then
      if isAdmitted c then readableCount? (start + count) 1 c.utf8Size rest
      else some (start + count)
    else if isAdmitted c then readableCount? start (count + 1) (bytes + c.utf8Size) rest
    else some start

/-- The part of a text that can be read, and whether the text goes on behind it. -/
def readablePart (text : List Char) : List Char × Bool :=
  match readableCount? 0 0 0 text with
  | some count => (text.take count, true)
  | none => (text, false)

end RolloutWatch.Yaml
