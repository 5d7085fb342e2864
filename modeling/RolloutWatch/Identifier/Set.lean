import RolloutWatch.HashSet
import RolloutWatch.Identifier.Basic

/-!
# Sets of identifiers

An identifier is hashed like its text and can be borrowed as its text. So membership can be asked
by text, without building an identifier.
-/

namespace RolloutWatch

namespace Identifier

variable {subject : Subject}

instance : Hash (Identifier subject) where
  written id := Hash.written id.text

instance : Borrow (Identifier subject) String where
  borrow id := id.text

/-- Equality and hashing are those of the text. -/
instance : LawfulBorrow (Identifier subject) String where
  beq_borrow _ _ := rfl
  written_borrow _ := rfl

end Identifier

/-- A finite set of identifiers of one subject. -/
abbrev IdentifierSet (subject : Subject) := HashSet (Identifier subject)

namespace IdentifierSet

variable {subject : Subject}

/-- The set of the identifiers in a list. -/
def ofList (ids : List (Identifier subject)) : IdentifierSet subject :=
  ids.foldl HashSet.insert ∅

variable {set : IdentifierSet subject} {text : String}

theorem contains_iff : set.contains text = true ↔ Identifier.mk text ∈ set.members := by
  have same : set.contains text = set.contains (Identifier.mk text) :=
    HashSet.contains_borrow set (Identifier.mk text)
  rw [same, HashSet.contains_iff]

theorem contains_insert {new : Identifier subject} :
    (set.insert new).contains text = true ↔ set.contains text = true ∨ text = new.text := by
  rw [contains_iff, contains_iff, HashSet.mem_insert, Identifier.ext_iff]

end IdentifierSet

end RolloutWatch
