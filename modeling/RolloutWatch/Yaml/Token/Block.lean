import RolloutWatch.Yaml.Cursor
import RolloutWatch.Yaml.Token.Gap

/-!
# Block scalars

A literal or folded scalar is a run of indented lines behind a header. The header
may say how deep the lines are indented beyond their parent and what becomes of
the line breaks at the end: by default one is kept, with a minus none, with a plus
all. Without a number the indentation is that of the first line that is not empty.

A literal scalar keeps its line breaks. A folded one joins two lines by a space
where neither begins with a blank, and loses one of several breaks between them.
-/

namespace RolloutWatch.Yaml

/-- Which of the line breaks at the end of a block scalar are kept. -/
inductive Chomping where
  | strip
  | clip
  | keep
deriving DecidableEq, Repr

/-- The header of a block scalar. -/
structure BlockHeader where
  chomping : Chomping := .clip
  /-- The indentation beyond the parent, if it is given. -/
  increment : Option Nat := none
deriving DecidableEq, Repr

def chomping? : Char → Option Chomping
  | '+' => some .keep
  | '-' => some .strip
  | _ => none

/-- The indentation that a digit stands for, from one to nine. -/
def increment? (c : Char) : Option Nat :=
  if '1' ≤ c ∧ c ≤ '9' then some (c.toNat - '0'.toNat) else none

/-- The header behind the mark of a block scalar, and how many characters it takes.
The two parts may stand in either order. -/
def blockHeader : List Char → BlockHeader × Nat
  | [] => ({}, 0)
  | c :: rest =>
    match chomping? c, increment? c with
    | some chomping, _ =>
      match rest.head?.bind increment? with
      | some n => ({ chomping, increment := some n }, 2)
      | none => ({ chomping }, 1)
    | none, some n =>
      match rest.head?.bind chomping? with
      | some chomping => ({ chomping, increment := some n }, 2)
      | none => ({ increment := some n }, 1)
    | none, none => ({}, 0)

/-- Passes over the rest of a line that holds blanks and a comment at most. -/
def skipToLineEnd? (here : Cursor) : Option Cursor :=
  let here := here.skipWhile isSpace
  let here := if here.rest.head? == some '#' then here.skipLine else here
  if atLineEnd here.rest then some here else none

/-- The line breaks of empty lines, the deepest column among them, and the place
of the first line that is not empty. -/
structure EmptyLines where
  breaks : List Char := []
  deepest : Nat := 0
  after : Cursor
deriving Repr

/-- Passes over empty lines. They may be indented by spaces, up to `indent` of them
where `indent` is known, and never by tabs. -/
def readEmptyLines (indent : Option Nat) (here : Cursor) : Option EmptyLines :=
  let spaces := (here.rest.takeWhile (· == ' ')).length
  let column :=
    match indent with
    | some n => min (here.column + spaces) (max n here.column)
    | none => here.column + spaces
  let inner := here.skip (column - here.column)
  let shallow := indent.all fun n => inner.column < n
  if shallow && inner.rest.head? == some '\t' then none
  else
    match h : inner.takeBreak? with
    | some (c, next) =>
      have : next.rest.length < here.rest.length := by
        have := Cursor.length_lt_of_takeBreak? h
        simp only [inner, Cursor.rest_skip, List.length_drop] at this
        omega
      (readEmptyLines indent next).map fun r =>
        { r with breaks := c :: r.breaks, deepest := max inner.column r.deepest }
    | none => some { deepest := inner.column, after := inner }
termination_by here.rest.length

theorem length_readEmptyLines_le (indent : Option Nat) (here : Cursor) :
    ∀ lines, readEmptyLines indent here = some lines →
      lines.after.rest.length ≤ here.rest.length := by
  fun_induction readEmptyLines indent here with
  | case1 =>
      intro lines h
      cases h
  | case2 here spaces column inner shallow tab c next found shorter ih =>
      intro lines h
      obtain ⟨rest, ok, rfl⟩ := Option.map_eq_some_iff.mp h
      exact Nat.le_trans (ih rest ok) (Nat.le_of_lt shorter)
  | case3 here spaces column inner shallow tab =>
      intro lines h
      cases h
      simp [inner]

/-- What separates two lines of a block scalar: the break of the first, and the
breaks of the empty lines between them. -/
structure LineEnd where
  first : Option Char := none
  others : List Char := []
  /-- Whether the line in front of it begins with a blank. -/
  afterBlank : Bool := false
deriving Repr

/-- What the line end stands for in front of another line. -/
def LineEnd.text (folded beforeBlank : Bool) (e : LineEnd) : List Char :=
  if folded && e.first == some '\n' && !e.afterBlank && !beforeBlank then
    if e.others.isEmpty then [' '] else e.others
  else e.first.toList ++ e.others

/-- What the line end stands for behind the last line. -/
def LineEnd.chomp (chomping : Chomping) (e : LineEnd) : List Char :=
  match chomping with
  | .strip => []
  | .clip => e.first.toList
  | .keep => e.first.toList ++ e.others

/-- Reads the lines of a block scalar that are left, with the line end in front. -/
def readLines (folded : Bool) (chomping : Chomping) (indent : Nat) (e : LineEnd)
    (here : Cursor) : Option (List Char × Cursor) :=
  if here.column = indent ∧ here.rest ≠ [] then
    let content := here.rest.takeWhile fun c => !isBreak c
    let startsBlank := content.head?.any isSpace
    let front := e.text folded startsBlank ++ content
    let lineEnd := here.skip content.length
    match h : lineEnd.takeBreak? with
    | none =>
      -- The text ends without a break, and so does the scalar.
      some (front, lineEnd)
    | some (c, next) =>
      match he : readEmptyLines (some indent) next with
      | none => none
      | some lines =>
        have : lines.after.rest.length < here.rest.length := by
          have bound := Cursor.length_lt_of_takeBreak? h
          simp only [lineEnd, Cursor.rest_skip, List.length_drop] at bound
          exact Nat.lt_of_le_of_lt (length_readEmptyLines_le _ _ _ he) (by omega)
        let e' : LineEnd := { first := some c, others := lines.breaks, afterBlank := startsBlank }
        (readLines folded chomping indent e' lines.after).map fun r => (front ++ r.1, r.2)
  else some (e.chomp chomping, here)
termination_by here.rest.length

/-- Reads a block scalar behind its mark, whose parent is indented by `parent`, and
returns the text with the place behind it. -/
def readBlock (folded : Bool) (parent : Int) (here : Cursor) : Option (List Char × Cursor) := do
  let (header, count) := blockHeader here.rest
  let here ← skipToLineEnd? (here.skip count)
  let here := (here.takeBreak?.map (·.2)).getD here
  let given := header.increment.map fun n => (if 0 ≤ parent then parent + n else n).toNat
  let lines ← readEmptyLines given here
  let indent := given.getD (max (max lines.deepest (parent + 1).toNat) 1)
  readLines folded header.chomping indent { others := lines.breaks } lines.after

end RolloutWatch.Yaml
