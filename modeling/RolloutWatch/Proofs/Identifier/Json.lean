import RolloutWatch.Identifier.Json
import RolloutWatch.Identifier.Set
import RolloutWatch.Proofs.Json.Quoted

/-!
# Identifiers come back from JSON

What is read from the JSON of an identifier is that identifier, so it is found in a set by the
same texts, and no other identifier has this JSON.
-/

namespace RolloutWatch.Identifier

variable {subject : Subject}

theorem ofJson?_toJson (id : Identifier subject) : ofJson? id.toJson = some id := by
  simp only [ofJson?, toJson, String.toList_ofList, Json.unquote?_quote, Option.map_some,
    String.ofList_toList]

theorem toJson_inj {id other : Identifier subject} : other.toJson = id.toJson ↔ other = id := by
  rw [toJson, toJson, String.ofList_inj, Json.quote_injective.eq_iff, String.toList_inj,
    Identifier.ext_iff]

/-- The JSON of an identifier is read as an equal one. In a set it is found by the text of the
original and by no other one, and its own text finds the original in a set. Different identifiers
have different JSON. -/
theorem survives_json (id : Identifier subject) :
    ∃ back : Identifier subject, ofJson? id.toJson = some back ∧ back = id ∧
      (∀ (set : IdentifierSet subject) (probe : String),
        (set.insert back).contains probe = true ↔ set.contains probe = true ∨ probe = id.text) ∧
      (∀ set : IdentifierSet subject, set.contains back.text = true ↔ id ∈ set.members) ∧
      ∀ other : Identifier subject, other.toJson = id.toJson ↔ other = id := by
  refine ⟨id, ofJson?_toJson id, rfl, ?_, fun set => IdentifierSet.contains_iff,
    fun other => toJson_inj⟩
  intro set probe
  exact IdentifierSet.contains_insert

/-- One character of each kind. -/
example : (Identifier.mk "a\"\\/\n\x1fé" : Identifier .event).toJson =
    "\"a\\\"\\\\/\\n\\u001fé\"" := by
  decide +kernel

end RolloutWatch.Identifier
