import RolloutWatch.Text.Quoted

/-!
# Identifiers

Clusters, services and events are named by text. The subject of an identifier is
part of its type, so a cluster's name cannot stand where a service's is wanted.
Identifiers are equal exactly when their texts are.
-/

namespace RolloutWatch

/-- What an identifier names. -/
inductive Subject where
  | cluster
  | service
  | event
deriving DecidableEq, Repr

/-- The name of a `subject`. -/
@[ext] structure Identifier (subject : Subject) where
  text : String
deriving DecidableEq, Repr

namespace Identifier

variable {subject : Subject}

/-- The texts alone are compared. -/
instance : BEq (Identifier subject) where
  beq id other := id.text == other.text

instance : LawfulBEq (Identifier subject) where
  eq_of_beq same := Identifier.ext (eq_of_beq same)
  rfl := BEq.rfl (α := String)

instance : ToString (Identifier subject) where
  toString id := id.text

/-- The identifier as it appears in diagnostic output. -/
def inspect (id : Identifier subject) : String :=
  "Id(" ++ Text.quoted id.text ++ ")"

end Identifier

end RolloutWatch
