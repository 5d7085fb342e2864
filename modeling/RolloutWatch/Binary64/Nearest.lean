/-!
# Reading decimals into 64-bit floating point

A finite number of the 64-bit format is a mantissa of at most 53 bits times a
power of two with an exponent from -1074 to 971. A decimal is read as the nearest
such number, and of two equally near ones as that with the even mantissa. A
decimal beyond the largest number has no finite reading.

Everything is exact arithmetic on natural numbers.
-/

namespace RolloutWatch

/-- The finite number `mantissa * 2 ^ exponent`, without a sign. -/
structure Binary64 where
  mantissa : Nat
  exponent : Int
deriving DecidableEq, Repr

namespace Binary64

def zero : Binary64 := { mantissa := 0, exponent := -1074 }

/-- The least mantissa of full length: 2⁵². -/
def leastFull : Nat := 4503599627370496

/-- The fraction `numerator / denominator` times a power of `base`, as a fraction. -/
def scale (base : Nat) (power : Int) (numerator denominator : Nat) : Nat × Nat :=
  if 0 ≤ power then (numerator * Nat.pow base power.toNat, denominator)
  else (numerator, denominator * Nat.pow base (-power).toNat)

/-- The quotient rounded to the nearest number, halves to the even one. -/
def roundToEven (numerator denominator : Nat) : Nat :=
  let quotient := numerator / denominator
  let twice := 2 * (numerator % denominator)
  if denominator < twice || (twice == denominator && quotient % 2 == 1) then quotient + 1
  else quotient

/-- The largest power of two that is not above a positive fraction. -/
def binaryLog (numerator denominator : Nat) : Int :=
  let guess : Int := (numerator.log2 : Int) - denominator.log2
  let (n, d) := scale 2 (-guess) numerator denominator
  if n < d then guess - 1 else guess

/-- The number nearest to a positive fraction, if it is finite. -/
def ofFraction? (numerator denominator : Nat) : Option Binary64 :=
  let exponent := max (binaryLog numerator denominator - 52) (-1074)
  let (n, d) := scale 2 (-exponent) numerator denominator
  let mantissa := roundToEven n d
  let result : Binary64 :=
    if mantissa = 2 * leastFull then { mantissa := leastFull, exponent := exponent + 1 }
    else { mantissa, exponent }
  if 971 < result.exponent then none else some result

/-- The number nearest to `digits * 10 ^ power`, if it is finite. The exponent is
looked at first, so that the powers that are computed stay small. -/
def ofDecimal? (digits : Nat) (power : Int) : Option Binary64 :=
  if digits = 0 then some zero
  else
    let magnitude : Int := (Nat.toDigits 10 digits).length + power
    if 310 < magnitude then none
    else if magnitude < -330 then some zero
    else
      let (n, d) := scale 10 power digits 1
      ofFraction? n d

end Binary64

end RolloutWatch
