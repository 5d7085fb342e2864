import RolloutWatch.Yaml.Cursor
import RolloutWatch.Yaml.Token.Gap

/-!
# Plain scalars

A scalar without quotes ends where something else begins: in front of a colon
that a gap follows, in front of a comment, of a line that is not indented enough,
of a mark between documents, and within a flow collection in front of the marks of
such collections. The gap in front of its end does not belong to it.
-/

namespace RolloutWatch.Yaml

/-- The marks of flow collections. -/
def isFlowMark (c : Char) : Bool :=
  c == ',' || c == '[' || c == ']' || c == '{' || c == '}'

/-- A plain scalar with the place where it ends. -/
structure PlainScalar where
  text : List Char
  /-- Whether there is a line break between the last word and the end. -/
  endsLine : Bool
  after : Cursor
deriving Repr

/-- Whether the text may not run on at this place, where a gap has just ended. -/
def stopsAfterGap (inFlow : Bool) (indent : Int) (here : Cursor) : Bool :=
  (!inFlow && here.column < indent) || (here.column == 0 && atDocumentMark here.rest)
    || here.rest.head? == some '#'

/-- Reads the rest of a plain scalar, with the gap that has been passed since its
last word. Continuation lines have at least `indent` columns in front of them. -/
def readPlain (inFlow : Bool) (indent : Int) (gap : Gap) (here : Cursor) : Option PlainScalar :=
  match h : here.rest with
  | [] => some { text := [], endsLine := gap.isBroken, after := here }
  | c :: rest =>
    have : here.rest.length = rest.length + 1 := by simp [h]
    match hb : here.takeBreak? with
    | some (char, next) =>
      have := Cursor.length_lt_of_takeBreak? hb
      readPlain inFlow indent (gap.addBreak char) next
    | none =>
      if isSpace c then
        if gap.isBroken && here.column < indent && c == '\t' then none
        else readPlain inFlow indent (gap.addBlank c) (here.skip 1)
      else if !gap.isNone && stopsAfterGap inFlow indent here then
        some { text := [], endsLine := gap.isBroken, after := here }
      else if inFlow && c == ':' && rest.head?.any (fun d => isFlowMark d || d == '?') then none
      else if (c == ':' && atGap rest) || (inFlow && isFlowMark c) then
        some { text := [], endsLine := gap.isBroken, after := here }
      else
        (readPlain inFlow indent .none (here.skip 1)).map fun r =>
          { r with text := gap.text ++ c :: r.text }
termination_by here.rest.length
decreasing_by
  all_goals
    try simp only [Cursor.rest_skip, List.length_drop] at *
    omega

end RolloutWatch.Yaml
