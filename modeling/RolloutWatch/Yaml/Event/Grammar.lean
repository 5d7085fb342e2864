import RolloutWatch.Yaml.Event

/-!
# From tokens to events

`Event.ofTokens` reads the structure of a stream from its tokens, up to the first
token that does not fit and as far as there are tokens. The events of a stream
without faults end with `Event.streamEnd`, and no others do.

The reader is a machine with a stack. Its place says what may come next, and the
stack holds the places to return to when the node at hand is complete.
-/

namespace RolloutWatch.Yaml

/-- Where the reader stands. -/
inductive Place where
  /-- In front of a document. The first one may begin without a mark. -/
  | beforeDocument (first : Bool)
  /-- Behind the mark of a document's beginning. -/
  | documentContent
  | documentEnd
  /-- In front of a node in a block collection, or outside of all collections. -/
  | blockNode
  | blockSequence (first : Bool)
  /-- In a sequence that is indented no further than the mapping around it. -/
  | flatSequence
  | blockKey (first : Bool)
  | blockValue
  | flowSequence (first : Bool)
  /-- In a mapping of one entry within a flow sequence: at its key, value and end. -/
  | pairKey
  | pairValue
  | pairEnd
  | flowKey (first : Bool)
  | flowValue
  /-- Behind a key of a flow mapping without the mark of a key. -/
  | flowNoValue
  | ended
deriving DecidableEq, Repr

/-- The state of the reader. -/
structure Reader where
  tokens : List Token
  place : Place := .beforeDocument true
  returns : List Place := []
  /-- The expansions of tag handles in the document at hand. -/
  expansions : List (List Char × List Char) := []
deriving Repr

/-- An event with the state behind it, unless there is a fault. -/
abbrev Reader.Step := Option (Event × Reader)

namespace Reader

/-- Passes over the first token. -/
def advance (r : Reader) : Reader :=
  { r with tokens := r.tokens.tail }

/-- Returns to the place on top of the stack. -/
def goBack (r : Reader) : Reader :=
  { r with place := r.returns.headD .ended, returns := r.returns.tail }

/-- Comes back to a place after the node that follows. -/
def returnTo (r : Reader) (place : Place) : Reader :=
  { r with returns := place :: r.returns }

/-- A value that is not written, and the place behind it. -/
def missingNode (r : Reader) (place : Place) : Step :=
  some (.scalar none .empty, { r with place })

/-- The anchor and the tag in front of a node. -/
structure Properties where
  anchor : Option (List Char) := none
  tag : Option (List Char × List Char) := none

/-- Reads an anchor and a tag, which may come in either order and at most once. -/
def readProperties (tokens : List Token) : Properties × List Token :=
  match tokens with
  | .anchor anchor :: .tag handle suffix :: rest =>
    ({ anchor := some anchor, tag := some (handle, suffix) }, rest)
  | .anchor anchor :: rest => ({ anchor := some anchor }, rest)
  | .tag handle suffix :: .anchor anchor :: rest =>
    ({ anchor := some anchor, tag := some (handle, suffix) }, rest)
  | .tag handle suffix :: rest => ({ tag := some (handle, suffix) }, rest)
  | rest => ({}, rest)

/-- The tag with its handle expanded. The handle has to be known. -/
def expandTag? (r : Reader) : Option (List Char × List Char) → Option (Option (List Char))
  | none => some none
  | some ([], suffix) => some (some suffix)
  | some (handle, suffix) =>
    (r.expansions.lookup handle).map fun expansion => some (expansion ++ suffix)

/-- The scalar of a node. A lone exclamation mark is no tag. -/
def scalarOf (tag : Option (List Char)) (text : List Char) (style : ScalarStyle) : Scalar :=
  { text, style, tag := if tag == some ['!'] then none else tag }

/-- Reads the beginning of a node. In a block context block collections may begin
here, and in front of a value also a flat sequence. -/
def node (block flat : Bool) (r : Reader) : Step := do
  match r.tokens with
  | .alias name :: _ => some (.alias name, r.advance.goBack)
  | tokens =>
    let (properties, rest) := readProperties tokens
    let r := { r with tokens := rest }
    -- The token behind the properties has to be there before a tag is expanded.
    let token ← rest.head?
    let tag ← r.expandTag? properties.tag
    let anchor := properties.anchor
    let collection (event : Event) (place : Place) : Step := some (event, { r with place })
    match token with
    | .scalar text style => some (.scalar anchor (scalarOf tag text style), r.advance.goBack)
    | .flowSequenceStart => collection (.sequenceStart anchor) (.flowSequence true)
    | .flowMappingStart => collection (.mappingStart anchor) (.flowKey true)
    | token =>
      if flat && token == .blockEntry then collection (.sequenceStart anchor) .flatSequence
      else if block && token == .blockSequenceStart then
        collection (.sequenceStart anchor) (.blockSequence true)
      else if block && token == .blockMappingStart then
        collection (.mappingStart anchor) (.blockKey true)
      else if anchor.isSome || tag.isSome then
        some (.scalar anchor (scalarOf tag [] .plain), r.goBack)
      else none

/-- A node in a block context, and the place behind it. -/
def blockNode (r : Reader) (place : Place) : Step :=
  (r.returnTo place).node true false

/-- A key or a value of a block mapping, and the place behind it. -/
def entryNode (r : Reader) (place : Place) : Step :=
  (r.returnTo place).node true true

/-- A node in a flow collection, and the place behind it. -/
def flowNode (r : Reader) (place : Place) : Step :=
  (r.returnTo place).node false false

/-- The end of a collection, at a mark of its own. -/
def close (r : Reader) (event : Event) : Step :=
  some (event, r.advance.goBack)

/-- The directives in front of a document: whether a version has been given, and the
expansions of handles. -/
structure Directives where
  version : Bool := false
  expansions : List (List Char × List Char) := []

/-- Reads the directives in front of a document. A version is given once at most,
and so is the expansion of a handle. -/
def readDirectives (known : Directives) : List Token → Option (Directives × List Token)
  | .versionDirective major minor :: rest =>
    if known.version || major != 1 || !(minor == 1 || minor == 2) then none
    else readDirectives { known with version := true } rest
  | .tagDirective handle expansion :: rest =>
    if (known.expansions.lookup handle).isSome then none
    else
      readDirectives { known with expansions := known.expansions ++ [(handle, expansion)] } rest
  | [] => none
  | rest => some (known, rest)

/-- The handles that are known unless a directive says otherwise. -/
def standardExpansions : List (List Char × List Char) :=
  [(['!'], ['!']), (['!', '!'], "tag:yaml.org,2002:".toList)]

/-- Reads the beginning of a document, or the end of the stream. -/
def documentStart (first : Bool) (r : Reader) : Step := do
  let tokens := if first then r.tokens else r.tokens.dropWhile (· == .documentEnd)
  let token ← tokens.head?
  let marked : Bool :=
    match token with
    | .versionDirective .. => true
    | .tagDirective .. => true
    | .documentStart => true
    | _ => false
  if token == .streamEnd then
    some (.streamEnd, { r with tokens := tokens.tail, place := .ended })
  else if first && !marked then
    some (.documentStart,
      { r with tokens, place := .blockNode, returns := .documentEnd :: r.returns
               expansions := standardExpansions })
  else
    let (directives, rest) ← readDirectives {} tokens
    if rest.head? != some .documentStart then none
    else
      some (.documentStart,
        { r with tokens := rest.tail, place := .documentContent
                 returns := .documentEnd :: r.returns
                 expansions := directives.expansions ++ standardExpansions })

/-- Reads what follows the mark of a document's beginning. -/
def documentContent (r : Reader) : Step := do
  let token ← r.tokens.head?
  let bare : Bool :=
    match token with
    | .versionDirective .. => true
    | .tagDirective .. => true
    | .documentStart => true
    | .documentEnd => true
    | .streamEnd => true
    | _ => false
  if bare then some (.scalar none .empty, r.goBack) else r.node true false

def documentEnd (r : Reader) : Step := do
  let token ← r.tokens.head?
  let r := if token == .documentEnd then r.advance else r
  some (.documentEnd, { r with place := .beforeDocument false, expansions := [] })

def blockSequence (r : Reader) : Step :=
  match r.tokens with
  | .blockEntry :: rest => do
    let r := r.advance
    let token ← rest.head?
    if token == .blockEntry || token == .blockEnd then r.missingNode (.blockSequence false)
    else r.blockNode (.blockSequence false)
  | .blockEnd :: _ => r.close .sequenceEnd
  | _ => none

def flatSequence (r : Reader) : Step :=
  match r.tokens with
  | .blockEntry :: rest => do
    let r := r.advance
    let token ← rest.head?
    if [.blockEntry, .key, .value, .blockEnd].contains token then r.missingNode .flatSequence
    else r.blockNode .flatSequence
  | _ :: _ => some (.sequenceEnd, r.goBack)
  | [] => none

/-- Whether a key or a value of a block mapping is left out in front of a token. -/
def endsEntry (token : Token) : Bool :=
  [.key, .value, .blockEnd].contains token

def blockKey (r : Reader) : Step :=
  match r.tokens with
  | .key :: rest => do
    let r := r.advance
    let token ← rest.head?
    if endsEntry token then r.missingNode .blockValue else r.entryNode .blockValue
  | .blockEnd :: _ => r.close .mappingEnd
  | _ => none

def blockValue (r : Reader) : Step :=
  match r.tokens with
  | .value :: rest => do
    let r := r.advance
    let token ← rest.head?
    if endsEntry token then r.missingNode (.blockKey false) else r.entryNode (.blockKey false)
  | _ :: _ => r.missingNode (.blockKey false)
  | [] => none

/-- Passes over the comma in front of an item that is not the first. -/
def passComma? (first : Bool) (close : Token) (r : Reader) : Option Reader :=
  match r.tokens with
  | [] => none
  | token :: _ =>
    if first || token == close then some r
    else if token == .flowEntry then some r.advance
    else none

def flowSequence (first : Bool) (r : Reader) : Step := do
  let r ← r.passComma? first .flowSequenceEnd
  match r.tokens with
  | [] => none
  | .flowSequenceEnd :: _ => r.close .sequenceEnd
  | .key :: _ => some (.mappingStart none, { r.advance with place := .pairKey })
  | _ => r.flowNode (.flowSequence false)

def pairKey (r : Reader) : Step := do
  let token ← r.tokens.head?
  -- A mark in place of the key is passed over with it.
  if [.value, .flowEntry, .flowSequenceEnd].contains token then r.advance.missingNode .pairValue
  else r.flowNode .pairValue

def pairValue (r : Reader) : Step :=
  match r.tokens with
  | .value :: rest => do
    let r := r.advance
    let token ← rest.head?
    if token == .flowEntry || token == .flowSequenceEnd then r.missingNode .pairEnd
    else r.flowNode .pairEnd
  | _ :: _ => r.missingNode .pairEnd
  | [] => none

def pairEnd (r : Reader) : Step :=
  match r.tokens with
  | [] => none
  | _ :: _ => some (.mappingEnd, { r with place := .flowSequence false })

def flowKey (first : Bool) (r : Reader) : Step := do
  let r ← r.passComma? first .flowMappingEnd
  match r.tokens with
  | [] => none
  | .flowMappingEnd :: _ => r.close .mappingEnd
  | .key :: rest =>
    let r := r.advance
    let token ← rest.head?
    if [.value, .flowEntry, .flowMappingEnd].contains token then r.missingNode .flowValue
    else r.flowNode .flowValue
  | _ => r.flowNode .flowNoValue

def flowValue (r : Reader) : Step :=
  match r.tokens with
  | .value :: rest => do
    let r := r.advance
    let token ← rest.head?
    if token == .flowEntry || token == .flowMappingEnd then r.missingNode (.flowKey false)
    else r.flowNode (.flowKey false)
  | _ :: _ => r.missingNode (.flowKey false)
  | [] => none

def flowNoValue (r : Reader) : Step :=
  match r.tokens with
  | [] => none
  | _ :: _ => r.missingNode (.flowKey false)

/-- Reads the next event. A collection's first place passes over its own mark. -/
def step (r : Reader) : Step :=
  match r.place with
  | .beforeDocument first => r.documentStart first
  | .documentContent => r.documentContent
  | .documentEnd => r.documentEnd
  | .blockNode => r.node true false
  | .blockSequence first => (if first then r.advance else r).blockSequence
  | .flatSequence => r.flatSequence
  | .blockKey first => (if first then r.advance else r).blockKey
  | .blockValue => r.blockValue
  | .flowSequence first => (if first then r.advance else r).flowSequence first
  | .pairKey => r.pairKey
  | .pairValue => r.pairValue
  | .pairEnd => r.pairEnd
  | .flowKey first => (if first then r.advance else r).flowKey first
  | .flowValue => r.flowValue
  | .flowNoValue => r.flowNoValue
  | .ended => none

/-- The events from here on, `turns` of them at most. -/
def events (turns : Nat) (r : Reader) : List Event :=
  match turns with
  | 0 => []
  | turns + 1 =>
    match r.step with
    | none => []
    | some (event, next) => event :: next.events turns

end Reader

/-- The events of a stream from its tokens, up to the first fault. -/
def Event.ofTokens (tokens : List Token) : List Event :=
  -- Between two tokens at most four events begin or end.
  ({ tokens := tokens.drop 1 } : Reader).events (8 * (tokens.length + 4))

end RolloutWatch.Yaml
