import RolloutWatch.Proofs.Text.Numeral
import RolloutWatch.Yaml.Scalar

/-!
# Scalars that are natural numbers

A plain scalar is read as a natural number if it consists of the decimal digits of the number, or of
digits in another system behind its mark. A plus sign may stand in front of either. Decimal digits
with a superfluous zero are no number, although they are a numeral.
-/

namespace RolloutWatch.Yaml

variable {text unsigned : List Char} {n : Nat}

/-- Digits behind the mark of a base. -/
theorem basedNumeral?_eq_some_iff :
    basedNumeral? text = some n ↔
      (∃ digits, text = '0' :: 'x' :: digits ∧ Text.numeral? 16 digits = some n) ∨
        (∃ digits, text = '0' :: 'o' :: digits ∧ Text.numeral? 8 digits = some n) ∨
        ∃ digits, text = '0' :: 'b' :: digits ∧ Text.numeral? 2 digits = some n := by
  constructor
  · intro read
    unfold basedNumeral? at read
    split at read
    · exact .inl ⟨_, rfl, read⟩
    · exact .inr (.inl ⟨_, rfl, read⟩)
    · exact .inr (.inr ⟨_, rfl, read⟩)
    · cases read
  · rintro (⟨digits, rfl, read⟩ | ⟨digits, rfl, read⟩ | ⟨digits, rfl, read⟩) <;> exact read

/-- The digits of a number are no digits of another base, for the mark stands behind a zero. -/
theorem basedNumeral?_toDigits (n : Nat) : basedNumeral? (Nat.toDigits 10 n) = none := by
  rw [Option.eq_none_iff_forall_ne_some]
  intro m read
  obtain ⟨_, begins, _⟩ | ⟨_, begins, _⟩ | ⟨_, begins, _⟩ := basedNumeral?_eq_some_iff.mp read <;>
    cases Text.eq_nil_of_toDigits begins

/-- What is read behind the sign. -/
theorem natural?_eq
    (form : (text = unsigned ∧ ∀ rest, unsigned ≠ '+' :: rest) ∨ text = '+' :: unsigned) :
    natural? text = match basedNumeral? unsigned with
      | some n => some n
      | none => if isPaddedNumber text then none else Text.numeral? 10 unsigned := by
  obtain ⟨rfl, signless⟩ | rfl := form
  · unfold natural?
    split
    · next rest => exact absurd rfl (signless rest)
    · rfl
  · rfl

/-- Without a zero in front nothing is padded. -/
theorem isPaddedNumber_of_ne_zero {first : Char} (digit : first.isDigit = true)
    (nonzero : first ≠ '0') (rest : List Char) :
    isPaddedNumber (first :: rest) = false ∧ isPaddedNumber ('+' :: first :: rest) = false := by
  have signless : first ≠ '+' ∧ first ≠ '-' := by
    constructor <;> rintro rfl <;> cases digit
  constructor
  · unfold isPaddedNumber
    split
    · next same => exact absurd (List.cons.inj same).1 signless.1
    · next same => exact absurd (List.cons.inj same).1 signless.2
    · dsimp only
      split
      · next same => exact absurd (List.cons.inj same).1 nonzero
      · rfl
  · unfold isPaddedNumber
    dsimp only
    split
    · next same => exact absurd (List.cons.inj same).1 nonzero
    · rfl

/-- Among numerals, those are padded that have something behind a zero. -/
theorem isPaddedNumber_iff (form : text = unsigned ∨ text = '+' :: unsigned)
    (numeral : Text.numeral? 10 unsigned = some n) :
    isPaddedNumber text = true ↔ ¬∀ rest, unsigned = '0' :: rest → rest = [] := by
  obtain ⟨inhabited, digits, _⟩ := Text.numeral?_ten_eq_some_iff.mp numeral
  cases unsigned with
  | nil => exact absurd rfl inhabited
  | cons first rest =>
      obtain ⟨digit, others⟩ := List.forall_mem_cons.mp digits
      by_cases zero : first = '0'
      · subst zero
        cases rest with
        | nil =>
            have unpadded : ∀ tail, ['0'] = '0' :: tail → tail = [] :=
              fun tail same => (List.cons.inj same).2.symm
            obtain rfl | rfl := form <;>
              exact iff_of_false Bool.false_ne_true (not_not.mpr unpadded)
        | cons c rest =>
            have padded : (c :: rest).all (·.isDigit) = true := List.all_eq_true.mpr others
            obtain rfl | rfl := form <;>
              exact iff_of_true padded fun unpadded => List.cons_ne_nil _ _ (unpadded _ rfl)
      · obtain ⟨plain, signed⟩ := isPaddedNumber_of_ne_zero digit zero rest
        have unpadded : ∀ tail, first :: rest = '0' :: tail → tail = [] :=
          fun tail same => absurd (List.cons.inj same).1 zero
        obtain rfl | rfl := form
        · exact iff_of_false (Bool.eq_false_iff.mp plain) (not_not.mpr unpadded)
        · exact iff_of_false (Bool.eq_false_iff.mp signed) (not_not.mpr unpadded)

/-- A text is read as a natural number if, perhaps behind a plus sign, it consists of the digits of
the number in the decimal system, or of a mark and of digits in the system of the mark. -/
theorem natural?_eq_some_iff :
    natural? text = some n ↔
      ∃ unsigned, (text = unsigned ∨ text = '+' :: unsigned) ∧
        (unsigned = Nat.toDigits 10 n ∨ basedNumeral? unsigned = some n) := by
  constructor
  · intro read
    obtain ⟨unsigned, form⟩ : ∃ unsigned,
        (text = unsigned ∧ ∀ rest, unsigned ≠ '+' :: rest) ∨ text = '+' :: unsigned := by
      by_cases signed : ∃ rest, text = '+' :: rest
      · exact signed.imp fun _ => .inr
      · exact ⟨text, .inl ⟨rfl, fun rest same => signed ⟨rest, same⟩⟩⟩
    refine ⟨unsigned, form.imp_left And.left, ?_⟩
    rw [natural?_eq form] at read
    split at read
    · next based =>
        cases read
        exact .inr based
    · obtain ⟨plain, read⟩ := Option.ite_none_left_eq_some.mp read
      have unpadded := not_not.mp (mt (isPaddedNumber_iff (form.imp_left And.left) read).mpr plain)
      exact .inl ((Text.numeral?_ten_eq_some_iff_toDigits unpadded).mp read)
  · rintro ⟨unsigned, form, meant⟩
    have signless : ∀ rest, unsigned ≠ '+' :: rest := by
      rintro rest rfl
      obtain digits | based := meant
      · have digit : '+'.isDigit = true := Nat.isDigit_of_mem_toDigits (b := 10) (n := n)
          (by decide) (by decide) (digits ▸ List.mem_cons_self)
        cases digit
      · cases based
    rw [natural?_eq (form.imp_left fun same => ⟨same, signless⟩)]
    obtain rfl | based := meant
    · have unpadded : ∀ rest, Nat.toDigits 10 n = '0' :: rest → rest = [] :=
        fun _ => Text.eq_nil_of_toDigits
      have read := (Text.numeral?_ten_eq_some_iff_toDigits unpadded).mpr rfl
      rw [basedNumeral?_toDigits]
      exact (if_neg fun padded => (isPaddedNumber_iff form read).mp padded unpadded).trans read
    · rw [based]

end RolloutWatch.Yaml
