import RolloutWatch.Identifier.Basic
import RolloutWatch.Json.Quoted

/-!
# Identifiers as JSON

An identifier is written as the string of its text. The subject is not written,
so the reader has to know it.
-/

namespace RolloutWatch.Identifier

variable {subject : Subject}

def toJson (id : Identifier subject) : String :=
  String.ofList (Json.quote id.text.toList)

def ofJson? (text : String) : Option (Identifier subject) :=
  (Json.unquote? text.toList).map fun content => { text := String.ofList content }

end RolloutWatch.Identifier
