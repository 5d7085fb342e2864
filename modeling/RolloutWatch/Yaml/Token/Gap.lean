/-!
# Gaps between the words of a scalar

Blanks and line breaks inside a scalar are collected until the next word shows
what they amount to. A gap within a line stands for itself. A gap over several
lines loses its blanks and is folded: a single line feed becomes a space, and of
several the first is dropped. Other kinds of line break are kept.
-/

namespace RolloutWatch.Yaml

/-- What lies between two words of a scalar. -/
inductive Gap where
  /-- Blanks of one line, perhaps none. -/
  | blanks (text : List Char)
  /-- A line break, and the breaks after it. The first is missing if it was escaped. -/
  | broken (first : Option Char) (others : List Char)
deriving DecidableEq, Repr

namespace Gap

def none : Gap := .blanks []

def isBroken : Gap → Bool
  | blanks _ => false
  | broken .. => true

def isNone : Gap → Bool
  | blanks text => text.isEmpty
  | broken .. => false

/-- Adds a blank, which counts only in front of the first line break. -/
def addBlank (c : Char) : Gap → Gap
  | blanks text => .blanks (text ++ [c])
  | broken first others => .broken first others

/-- Adds a line break. -/
def addBreak (c : Char) : Gap → Gap
  | blanks _ => .broken (some c) []
  | broken first others => .broken first (others ++ [c])

/-- The text that the gap stands for. -/
def text : Gap → List Char
  | blanks text => text
  | broken first others =>
    match first with
    | some '\n' => if others.isEmpty then [' '] else others
    | some c => c :: others
    | _ => others

end Gap

end RolloutWatch.Yaml
