import RolloutWatch.Text.Numeral
import RolloutWatch.Yaml.Token.Block
import RolloutWatch.Yaml.Token.Property

/-!
# Directives

A line that begins with a percent sign says which version of YAML a document is
written in, or which expansion a tag's handle has. There are no other directives.
-/

namespace RolloutWatch.Yaml

/-- Reads a number of up to nine digits. -/
def readVersionNumber (here : Cursor) : Option (Nat × Cursor) :=
  let digits := here.rest.takeWhile (·.isDigit)
  if digits.isEmpty || 9 < digits.length then none
  else some (Text.decimal digits, here.skip digits.length)

/-- Reads a version: two numbers with a point between them. -/
def readVersion (here : Cursor) : Option (Token × Cursor) := do
  let (major, here) ← readVersionNumber (here.skipWhile isSpace)
  if here.rest.head? != some '.' then none
  else
    let (minor, here) ← readVersionNumber (here.skip 1)
    some (.versionDirective major minor, here)

/-- Reads a handle and its expansion, with blanks between them. -/
def readTagExpansion (here : Cursor) : Option (Token × Cursor) := do
  let (handle, here) ← readHandle (here.skipWhile isSpace)
  if !(isClosedHandle handle || handle == ['!']) || !(here.rest.head?.any isSpace) then none
  else
    let (expansion, here) ← readTagText true (here.skipWhile isSpace)
    if expansion.isEmpty || !atGap here.rest then none
    else some (.tagDirective handle (untilZero expansion), here)

/-- Reads a directive behind its percent sign, up to the next line. -/
def readDirective (here : Cursor) : Option (Token × Cursor) := do
  let name := here.rest.takeWhile isWord
  let here := here.skip name.length
  if !atGap here.rest then none
  else
    let (directive, here) ←
      if name == "YAML".toList then readVersion here
      else if name == "TAG".toList then readTagExpansion here
      else none
    let here ← skipToLineEnd? here
    some (directive, (here.takeBreak?.map (·.2)).getD here)

end RolloutWatch.Yaml
