/-!
# Numerals

Digits and the numbers they write in positional notation. Digits are those of
ASCII, and letters of either case serve as digits from ten up.
-/

namespace RolloutWatch.Text

/-- The value of a digit in a positional notation with this base. -/
def digit? (base : Nat) (c : Char) : Option Nat :=
  let value :=
    if '0' ≤ c ∧ c ≤ '9' then c.toNat - '0'.toNat
    else if 'a' ≤ c ∧ c ≤ 'z' then c.toNat - 'a'.toNat + 10
    else if 'A' ≤ c ∧ c ≤ 'Z' then c.toNat - 'A'.toNat + 10
    else base
  if value < base then some value else none

/-- The number with these digits, the most significant first. -/
def ofDigits (base : Nat) (digits : List Nat) : Nat :=
  digits.foldl (fun n d => base * n + d) 0

/-- The number written by a text that has at least one character and digits only. -/
def numeral? (base : Nat) (text : List Char) : Option Nat :=
  if text.isEmpty then none else (text.mapM (digit? base)).map (ofDigits base)

/-- The number written by decimal digits. -/
def decimal (digits : List Char) : Nat :=
  ofDigits 10 (digits.map fun c => c.toNat - '0'.toNat)

end RolloutWatch.Text
