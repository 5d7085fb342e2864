import Mathlib.Data.List.Basic
import RolloutWatch.Text.Numeral

/-!
# Decimal numerals

A decimal numeral is a text of digits that is not empty. Of all decimal numerals for a number, its
digits in the decimal system are the one that has no superfluous zero in front.
-/

namespace RolloutWatch.Text

variable {text : List Char} {n : Nat} {c : Char}

theorem sub_lt_ten_of_isDigit (digit : c.isDigit = true) : c.toNat - '0'.toNat < 10 := by
  have below : c.toNat ≤ 57 := (Char.isDigit_iff_toNat.mp digit).2
  show c.toNat - 48 < 10
  omega

theorem digitChar_of_isDigit (digit : c.isDigit = true) : (c.toNat - '0'.toNat).digitChar = c := by
  have above : 48 ≤ c.toNat := (Char.isDigit_iff_toNat.mp digit).1
  apply Char.toNat_inj.mp
  rw [Nat.toNat_digitChar_of_lt_ten (sub_lt_ten_of_isDigit digit)]
  show 48 + (c.toNat - 48) = c.toNat
  omega

/-- Letters are no decimal digits. -/
theorem digit?_ten (c : Char) :
    digit? 10 c = if c.isDigit = true then some (c.toNat - '0'.toNat) else none := by
  have digit : c.isDigit = true ↔ '0' ≤ c ∧ c ≤ '9' := Char.isDigit_iff_toNat
  by_cases decimal : c.isDigit = true
  · rw [digit?, if_pos (digit.mp decimal), if_pos decimal, if_pos (sub_lt_ten_of_isDigit decimal)]
  · rw [digit?, if_neg (mt digit.mpr decimal), if_neg decimal, if_neg]
    split_ifs <;> omega

theorem mapM_digit?_ten (digits : ∀ c ∈ text, c.isDigit = true) :
    text.mapM (digit? 10) = some (text.map fun c => c.toNat - '0'.toNat) := by
  induction text with
  | nil => rfl
  | cons c text ih =>
      obtain ⟨first, rest⟩ := List.forall_mem_cons.mp digits
      rw [List.mapM_cons, digit?_ten, if_pos first, ih rest]
      rfl

theorem isDigit_of_mapM_digit?_ten :
    ∀ {text : List Char} {values : List Nat}, text.mapM (digit? 10) = some values →
      ∀ c ∈ text, c.isDigit = true := by
  intro text
  induction text with
  | nil => exact fun _ => nofun
  | cons c text ih =>
      intro values read
      rw [List.mapM_cons, digit?_ten] at read
      obtain ⟨_, first, read⟩ := Option.bind_eq_some_iff.mp read
      obtain ⟨_, rest, _⟩ := Option.bind_eq_some_iff.mp read
      exact List.forall_mem_cons.mpr ⟨(Option.ite_none_right_eq_some.mp first).1, ih rest⟩

/-- A decimal numeral has digits only, and at least one. -/
theorem numeral?_ten_eq_some_iff :
    numeral? 10 text = some n ↔ text ≠ [] ∧ (∀ c ∈ text, c.isDigit = true) ∧ n = decimal text := by
  rw [numeral?, Option.ite_none_left_eq_some, List.isEmpty_iff]
  refine and_congr_right fun _ => ?_
  constructor
  · intro read
    obtain ⟨values, known, rfl⟩ := Option.map_eq_some_iff.mp read
    have digits := isDigit_of_mapM_digit?_ten known
    obtain rfl := Option.some.inj ((mapM_digit?_ten digits).symm.trans known)
    exact ⟨digits, rfl⟩
  · rintro ⟨digits, rfl⟩
    rw [mapM_digit?_ten digits]
    rfl

/-- The digits of a number write this number. -/
theorem decimal_toDigits (n : Nat) : decimal (Nat.toDigits 10 n) = n := by
  rw [decimal, ofDigits, List.foldl_map, ← Nat.ofDigitChars_eq_foldl,
    Nat.ofDigitChars_ten_toDigits]

/-- A positive number is not written with a zero in front. -/
theorem toDigits_ne_zero_cons (positive : 0 < n) :
    ∀ rest, Nat.toDigits 10 n ≠ '0' :: rest := by
  induction n using Nat.strongRecOn with
  | _ n ih =>
      intro rest same
      rw [Nat.toDigits_eq_if (by decide)] at same
      split at same
      · have zero := Nat.digitChar_eq_zero.mp (List.cons.inj same).1
        omega
      · cases digits : Nat.toDigits 10 (n / 10) with
        | nil => exact Nat.toDigits_ne_nil digits
        | cons c front =>
            rw [digits] at same
            obtain ⟨rfl, _⟩ := List.cons.inj same
            exact ih (n / 10) (by omega) (by omega) front digits

/-- Digits behind those of a positive number lead to the digits of another number. -/
theorem toDigits_append (digits : ∀ c ∈ text, c.isDigit = true) :
    ∀ {n : Nat}, 0 < n →
      Nat.toDigits 10 n ++ text = Nat.toDigits 10 (Nat.ofDigitChars 10 text n) := by
  induction text with
  | nil =>
      intro n _
      exact List.append_nil _
  | cons c text ih =>
      intro n positive
      obtain ⟨first, rest⟩ := List.forall_mem_cons.mp digits
      have small := sub_lt_ten_of_isDigit first
      have next := Nat.toDigits_append_toDigits (by decide : 1 < 10) positive small
      rw [Nat.toDigits_of_lt_base small, digitChar_of_isDigit first] at next
      rw [Nat.ofDigitChars_cons, ← ih rest (by omega), ← next, List.append_assoc,
        List.singleton_append]

/-- Digits without a zero that could be left out are the digits of their number. -/
theorem toDigits_decimal (inhabited : text ≠ []) (digits : ∀ c ∈ text, c.isDigit = true)
    (unpadded : ∀ rest, text = '0' :: rest → rest = []) :
    Nat.toDigits 10 (decimal text) = text := by
  cases text with
  | nil => exact absurd rfl inhabited
  | cons c rest =>
      obtain ⟨first, others⟩ := List.forall_mem_cons.mp digits
      by_cases zero : c = '0'
      · subst zero
        obtain rfl := unpadded rest rfl
        rfl
      · have positive : 0 < c.toNat - '0'.toNat := by
          have above : 48 ≤ c.toNat := (Char.isDigit_iff_toNat.mp first).1
          have other : c.toNat ≠ 48 := fun same => zero (Char.toNat_inj.mp same)
          show 0 < c.toNat - 48
          omega
        have all := toDigits_append others positive
        rw [Nat.toDigits_of_lt_base (sub_lt_ten_of_isDigit first), digitChar_of_isDigit first,
          Nat.ofDigitChars_eq_foldl] at all
        rw [decimal, ofDigits, List.foldl_map, List.foldl_cons, Nat.mul_zero, Nat.zero_add, ← all,
          List.singleton_append]

/-- A numeral without a zero that could be left out is read as a number if and only if it consists
of the digits of the number. -/
theorem numeral?_ten_eq_some_iff_toDigits (unpadded : ∀ rest, text = '0' :: rest → rest = []) :
    numeral? 10 text = some n ↔ text = Nat.toDigits 10 n := by
  rw [numeral?_ten_eq_some_iff]
  constructor
  · rintro ⟨inhabited, digits, rfl⟩
    exact (toDigits_decimal inhabited digits unpadded).symm
  · rintro rfl
    exact ⟨Nat.toDigits_ne_nil,
      fun c member => Nat.isDigit_of_mem_toDigits (by decide) (by decide) member,
      (decimal_toDigits n).symm⟩

/-- The digits of a number have no superfluous zero in front. -/
theorem eq_nil_of_toDigits {rest : List Char} (begins : Nat.toDigits 10 n = '0' :: rest) :
    rest = [] := by
  cases n with
  | zero =>
      rw [Nat.toDigits_zero] at begins
      exact (List.cons.inj begins).2.symm
  | succ n => exact absurd begins (toDigits_ne_zero_cons (Nat.succ_pos n) rest)

end RolloutWatch.Text
