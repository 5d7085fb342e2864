/-!
# Computations that may fail

What it takes for two steps in a row to succeed, or to fail.
-/

namespace RolloutWatch

instance decidableEqExcept {ε α : Type} [DecidableEq ε] [DecidableEq α] :
    DecidableEq (Except ε α)
  | .error e, .error e' => decidable_of_iff (e = e') ⟨congrArg Except.error, Except.error.inj⟩
  | .ok a, .ok a' => decidable_of_iff (a = a') ⟨congrArg Except.ok, Except.ok.inj⟩
  | .error _, .ok _ => isFalse (by rintro ⟨⟩)
  | .ok _, .error _ => isFalse (by rintro ⟨⟩)

variable {ε α β : Type} {x : Except ε α} {f : α → Except ε β}

/-- Two steps succeed if both do. -/
theorem bind_eq_ok {b : β} : (x >>= f) = .ok b ↔ ∃ a, x = .ok a ∧ f a = .ok b := by
  constructor
  · intro done
    cases x with
    | error fault => cases done
    | ok a => exact ⟨a, rfl, done⟩
  · rintro ⟨a, rfl, done⟩
    exact done

/-- Two steps fail if the first does, or the second behind it. -/
theorem bind_eq_error {e : ε} :
    (x >>= f) = .error e ↔ x = .error e ∨ ∃ a, x = .ok a ∧ f a = .error e := by
  constructor
  · intro failed
    cases x with
    | error fault =>
        cases failed
        exact .inl rfl
    | ok a => exact .inr ⟨a, rfl, failed⟩
  · rintro (rfl | ⟨a, rfl, failed⟩)
    · rfl
    · exact failed

/-- A second step that always succeeds adds no failure. -/
theorem bind_pure_eq_error {e : ε} {g : α → β} :
    (x >>= fun a => pure (g a)) = .error e ↔ x = .error e := by
  rw [bind_eq_error]
  constructor
  · rintro (failed | ⟨a, _, done⟩)
    · exact failed
    · cases done
  · exact .inl

end RolloutWatch
