import RolloutWatch.Text.Occurrence

/-!
# Failure keywords

A message reports a failure when at least one of the keywords occurs in it. There
is always at least one keyword. An empty keyword occurs in every message.
-/

namespace RolloutWatch

/-- The words that mark a message as a failure. -/
@[ext] structure Keywords where
  first : String
  rest : List String := []
deriving DecidableEq, Repr

namespace Keywords

def toList (keywords : Keywords) : List String :=
  keywords.first :: keywords.rest

/-- The keywords of a list, unless it is empty. -/
def ofList? : List String → Option Keywords
  | [] => none
  | first :: rest => some { first, rest }

@[simp] theorem ofList?_toList (keywords : Keywords) : ofList? keywords.toList = some keywords :=
  rfl

/-- Whether some keyword occurs in the message. -/
def matchesText (keywords : Keywords) (message : String) : Bool :=
  keywords.toList.any fun word => Text.occurs word.toList message.toList

/-- The keywords used when none are configured. -/
def default : Keywords where
  first := "fail"
  rest := ["unhealthy", "error", "throttle", "unable", "missing"]

end Keywords

end RolloutWatch
