import RolloutWatch.Yaml.Piece
import RolloutWatch.Yaml.Token.Block
import RolloutWatch.Yaml.Token.Directive
import RolloutWatch.Yaml.Token.Plain
import RolloutWatch.Yaml.Token.Property
import RolloutWatch.Yaml.Token.Quoted

/-!
# From text to tokens

`Token.ofText` cuts a text into tokens up to its first fault. The tokens of a text
without faults end with `Token.streamEnd`, and no others do.

A token is given out only once it is settled. Whether a scalar is the key of a
mapping shows at the colon behind it, and then two tokens come in front of it, so
a token that may still turn out to be a key waits, with all that follow it. A fault
that is met while a token waits swallows the token. A key has to be followed by its
colon on the same line and within 1024 bytes.
-/

namespace RolloutWatch.Yaml

/-- A token that may turn out to be the key of a mapping. -/
structure PossibleKey where
  /-- Whether the text is faulty if this is no key. -/
  required : Bool
  /-- How many tokens come before it. -/
  number : Nat
  index : Nat
  line : Nat
  column : Nat
deriving Repr

/-- A text that has been cut into tokens up to a place. -/
structure Lexer where
  here : Cursor
  /-- The tokens that wait. -/
  queue : List Token := []
  /-- How many tokens have been given out. -/
  given : Nat := 0
  /-- The possible keys of the flow collections around the place, the innermost first, and of the
  block collection around them. -/
  keys : List (Option PossibleKey) := [none]
  /-- The column of the block collection around the place, -1 outside of all. -/
  indent : Int := -1
  /-- The columns of the block collections around that one, the innermost first. -/
  outer : List Int := []
  /-- Whether a key may begin at the place. -/
  keyAllowed : Bool := true
  /-- Whether the text goes on behind its last character with a piece that cannot be taken. -/
  cut : Bool := false
  ended : Bool := false
deriving Repr

namespace Lexer

def inFlow (s : Lexer) : Bool :=
  1 < s.keys.length

def column (s : Lexer) : Int :=
  s.here.column

/-- Appends a token to those that wait. -/
def push (s : Lexer) (token : Token) : Lexer :=
  { s with queue := s.queue ++ [token] }

/-- Puts a token in front of the one that has `number` tokens before it. -/
def pushBefore (s : Lexer) (number : Nat) (token : Token) : Lexer :=
  let place := number - s.given
  { s with queue := s.queue.take place ++ token :: s.queue.drop place }

/-- Gives up the innermost possible key, unless it is required. -/
def dropKey? (s : Lexer) : Option Lexer :=
  match s.keys with
  | some key :: rest => if key.required then none else some { s with keys := none :: rest }
  | _ => some s

/-- Notes that the next token may be a key, if one is allowed here. -/
def noteKey? (s : Lexer) : Option Lexer :=
  if s.keyAllowed then do
    let s ← s.dropKey?
    let key : PossibleKey := {
      required := !s.inFlow && s.indent == s.column
      number := s.given + s.queue.length
      index := s.here.index
      line := s.here.line
      column := s.here.column }
    some { s with keys := some key :: s.keys.tail }
  else some s

/-- Whether a possible key is too far back. -/
def isStale (here : Cursor) (key : PossibleKey) : Bool :=
  key.line < here.line || key.index + 1024 < here.index

/-- Gives up the possible keys that are too far back. None of them may be required. -/
def dropStaleKeys? (s : Lexer) : Option Lexer := do
  let keys ← s.keys.mapM fun key? =>
    match key? with
    | some key =>
      if isStale s.here key then if key.required then none else some none else some (some key)
    | none => some none
  some { s with keys }

/-- Whether the first token that waits may still turn out to be a key. -/
def headMayBeKey (s : Lexer) : Bool :=
  s.keys.any fun key? => key?.any (·.number == s.given)

/-- Begins a block collection at a column, unless one stands there or deeper. -/
def openBlock (s : Lexer) (column : Nat) (number : Option Nat) (start : Token) : Lexer :=
  if !s.inFlow && s.indent < column then
    let s := { s with indent := column, outer := s.indent :: s.outer }
    match number with
    | some number => s.pushBefore number start
    | none => s.push start
  else s

/-- Ends the block collections that are deeper than a column. -/
def closeBlocks (s : Lexer) (column : Int) : Lexer :=
  if s.inFlow then s else go s.queue s.indent s.outer
where
  go (queue : List Token) (indent : Int) : List Int → Lexer
    | [] => { s with queue, indent, outer := [] }
    | next :: rest =>
      if column < indent then go (queue ++ [.blockEnd]) next rest
      else { s with queue, indent, outer := next :: rest }

/-- Passes over a mark of the byte order at the beginning of a line. It takes a column. -/
def skipOrderMark (here : Cursor) : Cursor :=
  if here.column = 0 && here.rest.head? == some '\ufeff' then here.skip 1 else here

theorem length_skipOrderMark_le (here : Cursor) :
    (skipOrderMark here).rest.length ≤ here.rest.length := by
  unfold skipOrderMark
  split <;> simp

/-- Passes over the blanks and the comment of a line, up to its break. -/
def skipBlanks (tabs : Bool) (here : Cursor) : Cursor :=
  let here := (skipOrderMark here).skipWhile fun c => c == ' ' || (tabs && c == '\t')
  if here.rest.head? == some '#' then here.skipLine else here

theorem length_skipBlanks_le (tabs : Bool) (here : Cursor) :
    (skipBlanks tabs here).rest.length ≤ here.rest.length := by
  have start := length_skipOrderMark_le here
  have blanks := Cursor.length_skipWhile_le (fun c => c == ' ' || (tabs && c == '\t'))
    (skipOrderMark here)
  simp only [skipBlanks]
  split
  · exact Nat.le_trans (Cursor.length_skipWhile_le ..) (Nat.le_trans blanks start)
  · exact Nat.le_trans blanks start

/-- Passes over blanks, comments and line breaks. A tab does not count as a blank
where a key may begin in a block collection. -/
def skipGap (s : Lexer) : Lexer :=
  let lineEnd := skipBlanks (s.inFlow || !s.keyAllowed) s.here
  match h : lineEnd.takeBreak? with
  | some (_, next) =>
    have : next.rest.length < s.here.rest.length :=
      Nat.lt_of_lt_of_le (Cursor.length_lt_of_takeBreak? h) (length_skipBlanks_le ..)
    skipGap { s with here := next, keyAllowed := s.keyAllowed || !s.inFlow }
  | none => { s with here := lineEnd }
termination_by s.here.rest.length

/-- A mark of one character. -/
def pushMark (s : Lexer) (token : Token) : Lexer :=
  { s with here := s.here.skip 1 }.push token

/-- A token that has been read, with the place behind it. -/
def pushRead (s : Lexer) (read : Option (Token × Cursor)) : Option Lexer :=
  read.map fun r => { s with here := r.2 }.push r.1

/-- A token around a text that has been read, with the place behind it. -/
def pushText (s : Lexer) (token : List Char → Token) (read : Option (List Char × Cursor)) :
    Option Lexer :=
  read.map fun r => { s with here := r.2 }.push (token r.1)

/-- The end of the text, which counts as the beginning of a line. -/
def lexEnd (s : Lexer) : Option Lexer := do
  let here := if s.here.column = 0 then s.here else s.here.nextLine 0
  let s ← ({ s with here }.closeBlocks (-1)).dropKey?
  some { s.push .streamEnd with keyAllowed := false, ended := true }

def lexDirective (s : Lexer) : Option Lexer := do
  let s ← (s.closeBlocks (-1)).dropKey?
  { s with keyAllowed := false }.pushRead (readDirective (s.here.skip 1))

def lexDocumentMark (s : Lexer) (token : Token) : Option Lexer := do
  let s ← (s.closeBlocks (-1)).dropKey?
  some ({ s with here := s.here.skip 3, keyAllowed := false }.push token)

def lexFlowStart (s : Lexer) (token : Token) : Option Lexer := do
  let s ← s.noteKey?
  some ({ s with keys := none :: s.keys, keyAllowed := true }.pushMark token)

def lexFlowEnd (s : Lexer) (token : Token) : Option Lexer := do
  let s ← s.dropKey?
  let keys := if s.inFlow then s.keys.tail else s.keys
  some ({ s with keys, keyAllowed := false }.pushMark token)

def lexFlowEntry (s : Lexer) : Option Lexer := do
  let s ← s.dropKey?
  some ({ s with keyAllowed := true }.pushMark .flowEntry)

/-- Begins a block collection at the place, where that is allowed. -/
def openBlockHere? (s : Lexer) (start : Token) : Option Lexer :=
  if s.inFlow then some s
  else if s.keyAllowed then some (s.openBlock s.here.column none start)
  else none

def lexBlockEntry (s : Lexer) : Option Lexer := do
  let s ← s.openBlockHere? .blockSequenceStart
  let s ← s.dropKey?
  some ({ s with keyAllowed := true }.pushMark .blockEntry)

def lexKey (s : Lexer) : Option Lexer := do
  let s ← s.openBlockHere? .blockMappingStart
  let s ← s.dropKey?
  some ({ s with keyAllowed := !s.inFlow }.pushMark .key)

/-- A colon settles that the possible key in front of it is one. -/
def lexValue (s : Lexer) : Option Lexer :=
  match s.keys with
  | some key :: rest =>
    let s := (s.pushBefore key.number .key).openBlock key.column (some key.number)
      .blockMappingStart
    some ({ s with keys := none :: rest, keyAllowed := false }.pushMark .value)
  | _ => do
    let s ← s.openBlockHere? .blockMappingStart
    some ({ s with keyAllowed := !s.inFlow }.pushMark .value)

def lexName (s : Lexer) (token : List Char → Token) : Option Lexer := do
  let s ← s.noteKey?
  { s with keyAllowed := false }.pushText token (readName (s.here.skip 1))

def lexTag (s : Lexer) : Option Lexer := do
  let s ← s.noteKey?
  { s with keyAllowed := false }.pushRead (readTag s.inFlow s.here)

def lexBlockScalar (s : Lexer) (folded : Bool) : Option Lexer := do
  let s ← s.dropKey?
  { s with keyAllowed := true }.pushText (.scalar · (if folded then .folded else .literal))
    (readBlock folded s.indent (s.here.skip 1))

def lexQuoted (s : Lexer) (double : Bool) : Option Lexer := do
  let s ← s.noteKey?
  { s with keyAllowed := false }.pushText
    (.scalar · (if double then .doubleQuoted else .singleQuoted))
    (readQuoted double .none (s.here.skip 1))

def lexPlain (s : Lexer) : Option Lexer := do
  let s ← s.noteKey?
  let scalar ← readPlain s.inFlow (s.indent + 1) .none s.here
  some ({ s with here := scalar.after, keyAllowed := scalar.endsLine }.push
    (.scalar scalar.text .plain))

/-- Whether a plain scalar may begin with this character, which `rest` follows. -/
def startsPlain (inFlow : Bool) (c : Char) (rest : List Char) : Bool :=
  !(isSpace c || isBreak c || "-?:,[]\x7b\x7d#&*!|>'\"%@\x60".toList.contains c)
    || (c == '-' && !rest.head?.any isSpace)
    || (!inFlow && (c == '?' || c == ':') && !atGap rest)

/-- Cuts off the token that begins at the place. -/
def lexToken (s : Lexer) (c : Char) (rest : List Char) : Option Lexer :=
  if s.here.column = 0 && c == '%' then s.lexDirective
  else if s.here.column = 0 && atDocumentMark (c :: rest) then
    s.lexDocumentMark (if c == '-' then .documentStart else .documentEnd)
  else if c == '[' then s.lexFlowStart .flowSequenceStart
  else if c == '{' then s.lexFlowStart .flowMappingStart
  else if c == ']' then s.lexFlowEnd .flowSequenceEnd
  else if c == '}' then s.lexFlowEnd .flowMappingEnd
  else if c == ',' then s.lexFlowEntry
  else if c == '-' && atGap rest then s.lexBlockEntry
  else if c == '?' && (s.inFlow || atGap rest) then s.lexKey
  else if c == ':' && (s.inFlow || atGap rest) then s.lexValue
  else if c == '*' then s.lexName .alias
  else if c == '&' then s.lexName .anchor
  else if c == '!' then s.lexTag
  else if c == '|' && !s.inFlow then s.lexBlockScalar false
  else if c == '>' && !s.inFlow then s.lexBlockScalar true
  else if c == '\'' then s.lexQuoted false
  else if c == '"' then s.lexQuoted true
  else if startsPlain s.inFlow c rest then s.lexPlain
  else none

/-- Makes sure of a number of characters at the place. They may only be missing where
the text ends. -/
def lookAhead? (s : Lexer) (count : Nat) : Option Lexer :=
  if s.cut && (s.here.rest.take count).length < count then none else some s

/-- Passes over a gap and cuts off the token behind it. What kind of token begins
at a place shows in four characters, and that it ends in one more. -/
def next? (s : Lexer) : Option Lexer := do
  let s ← s.skipGap.dropStaleKeys?
  let s ← (s.closeBlocks s.column).lookAhead? 4
  let s ←
    match s.here.rest with
    | [] => s.lexEnd
    | c :: rest => s.lexToken c rest
  s.lookAhead? 1

/-- The tokens that are given out from here on. A turn gives out a token or cuts
off another one, and `turns` bounds their number. -/
def tokens (turns : Nat) (s : Lexer) : List Token :=
  match turns with
  | 0 => []
  | turns + 1 =>
    match s.queue with
    | [] =>
      if s.ended then []
      else
        match s.next? with
        | some s => s.tokens turns
        | none => []
    | token :: queue =>
      match s.dropStaleKeys? with
      | none => []
      | some s =>
        if s.headMayBeKey then
          match s.next? with
          | some s => s.tokens turns
          | none => []
        else token :: { s with queue, given := s.given + 1 }.tokens turns

end Lexer

/-- The tokens of a text up to its first fault, or to the piece of it that cannot
be taken. -/
def Token.ofText (text : String) : List Token :=
  let (text, cut) := readablePart text.toList
  let start : Lexer := { here := { rest := text }, given := 1, cut }
  -- Each character gives rise to four tokens at most.
  .streamStart :: start.tokens (8 * (text.length + 4))

end RolloutWatch.Yaml
