import RolloutWatch.Json.Quoted
import RolloutWatch.Yaml.Cursor
import RolloutWatch.Yaml.Token.Basic

/-!
# Anchors, aliases and tags

The name of an anchor or an alias is a word. A tag is written in full between
angle brackets, or as a handle with a suffix. Octets of a tag may be written by
two hexadecimal digits behind a percent sign, as long as together they form the
bytes of whole characters; a tag is kept as the list of its octets. A zero octet
ends the part of the tag it stands in: what follows it is read and has no effect.
-/

namespace RolloutWatch.Yaml

/-- What may follow the name of an anchor or an alias. -/
def endsName : List Char → Bool
  | [] => true
  | c :: rest => atGap (c :: rest) || ['?', ':', ',', ']', '}', '%', '@', '\x60'].contains c

/-- Reads the name behind the mark of an anchor or an alias. -/
def readName (here : Cursor) : Option (List Char × Cursor) :=
  let name := here.rest.takeWhile isWord
  let after := here.skip name.length
  if name.isEmpty || !endsName after.rest then none else some (name, after)

/-- The characters of a tag that stand for themselves. Within angle brackets these
include some marks of flow collections. -/
def isTagChar (bracketed : Bool) (c : Char) : Bool :=
  isWord c || ";/?:@&=+$.!~*'()".toList.contains c
    || (bracketed && (c == ',' || c == '[' || c == ']'))

/-- The number of octets of a character that begins with this one. -/
def octetCount? (octet : Nat) : Option Nat :=
  if octet < 0x80 then some 1
  else if 0xC0 ≤ octet ∧ octet < 0xE0 then some 2
  else if 0xE0 ≤ octet ∧ octet < 0xF0 then some 3
  else if 0xF0 ≤ octet ∧ octet < 0xF8 then some 4
  else none

/-- Reads the characters of a tag, where `pending` octets of a character are still
to come, and returns what follows them. -/
def readTagChars (bracketed : Bool) (pending : Nat) : List Char → Option (List Char × List Char)
  | '%' :: a :: b :: rest =>
    match Json.hexValue? a, Json.hexValue? b with
    | some high, some low =>
      let octet := 16 * high + low
      let left :=
        if pending = 0 then (octetCount? octet).map (· - 1)
        else if 0x80 ≤ octet ∧ octet < 0xC0 then some (pending - 1)
        else none
      match left with
      | some left =>
        (readTagChars bracketed left rest).map fun r => (Char.ofNat octet :: r.1, r.2)
      | none => none
    | _, _ => none
  | c :: rest =>
    if c == '%' || pending ≠ 0 then none
    else if isTagChar bracketed c then
      (readTagChars bracketed 0 rest).map fun r => (c :: r.1, r.2)
    else some ([], c :: rest)
  | [] => if pending = 0 then some ([], []) else none

/-- Reads the characters of a tag at a place. -/
def readTagText (bracketed : Bool) (here : Cursor) : Option (List Char × Cursor) :=
  (readTagChars bracketed 0 here.rest).map fun r =>
    (r.1, here.skip (here.rest.length - r.2.length))

/-- The octets of a part of a tag in front of the first zero octet. -/
def untilZero (octets : List Char) : List Char :=
  octets.takeWhile (· != '\x00')

/-- Reads a handle: an exclamation mark and a word, with a second mark at its end
if there is one. -/
def readHandle (here : Cursor) : Option (List Char × Cursor) :=
  match here.rest with
  | '!' :: rest =>
    let word := rest.takeWhile isWord
    let after := here.skip (word.length + 1)
    match after.rest with
    | '!' :: _ => some ('!' :: word ++ ['!'], after.skip 1)
    | _ => some ('!' :: word, after)
  | _ => none

/-- Whether a handle has both its marks. -/
def isClosedHandle (handle : List Char) : Bool :=
  2 ≤ handle.length && handle.getLast? == some '!'

/-- Reads a tag in angle brackets. -/
def readBracketedTag (here : Cursor) : Option (Token × Cursor) := do
  let (suffix, after) ← readTagText true (here.skip 2)
  if suffix.isEmpty || after.rest.head? != some '>' then none
  else some (.tag [] (untilZero suffix), after.skip 1)

/-- Reads a tag that is a handle with a suffix. A handle without its second mark is
the primary one, and its word belongs to the suffix. -/
def readShortTag (here : Cursor) : Option (Token × Cursor) := do
  let (handle, after) ← readHandle here
  let (suffix, after) ← readTagText false after
  if isClosedHandle handle then
    if suffix.isEmpty then none else some (.tag handle (untilZero suffix), after)
  else
    let suffix := untilZero (handle.tail ++ suffix)
    -- A lone exclamation mark has no handle and is a suffix by itself.
    if suffix.isEmpty then some (.tag [] ['!'], after) else some (.tag ['!'] suffix, after)

/-- Reads a tag. A gap has to follow it, or a comma in a flow collection. -/
def readTag (inFlow : Bool) (here : Cursor) : Option (Token × Cursor) := do
  let bracketed := here.rest[1]? == some '<'
  let (tag, after) ← if bracketed then readBracketedTag here else readShortTag here
  if atGap after.rest || (inFlow && after.rest.head? == some ',') then some (tag, after) else none

end RolloutWatch.Yaml
