import RolloutWatch.Binary64.Nearest

/-!
# The shortest decimal of a floating-point number

The decimals that are read as one number form an interval around it, whose ends
belong to it exactly when the mantissa is even. The text of a number has the
fewest digits for which some decimal lies in the interval, and of two such
decimals the nearer one, the larger one on a tie. It is written positionally and
always with a point.
-/

namespace RolloutWatch.Binary64

/-- The ends of the interval of decimals that are read as this number, in units of
a quarter of the mantissa's last place. -/
def interval (x : Binary64) : Nat × Nat :=
  let below := if x.mantissa = leastFull ∧ -1074 < x.exponent then 1 else 2
  (4 * x.mantissa - below, 4 * x.mantissa + 2)

/-- Whether the decimal `digits * 10 ^ power` is read as this number. -/
def readsBack (x : Binary64) (digits : Nat) (power : Int) : Bool :=
  let (low, high) := x.interval
  let (n, d) := scale 10 power digits 1
  let (n, d) := scale 2 (2 - x.exponent) n d
  if x.mantissa % 2 = 0 then low * d ≤ n && n ≤ high * d else low * d < n && n < high * d

/-- The least power of ten above a positive number. -/
def decimalMagnitude (x : Binary64) : Int :=
  let above (power : Int) : Bool :=
    let (n, d) := scale 2 x.exponent x.mantissa 1
    let (n, d) := scale 10 (-power) n d
    n < d
  let guess : Int := ((x.mantissa.log2 : Int) + x.exponent) * 30103 / 100000
  -- The logarithm is off by less than one step, so a neighbour of the guess is right.
  if above guess then guess else if above (guess + 1) then guess + 1 else guess + 2

/-- The nearer decimal with `count` digits at most that is read as this number. -/
def withDigits? (x : Binary64) (magnitude : Int) (count : Nat) : Option (Nat × Int) :=
  let power := magnitude - count
  let (n, d) := scale 2 x.exponent x.mantissa 1
  let (n, d) := scale 10 (-power) n d
  let down := n / d
  let up := down + 1
  match x.readsBack down power, x.readsBack up power with
  | true, true => if 2 * n < (down + up) * d then some (down, power) else some (up, power)
  | true, false => some (down, power)
  | false, true => some (up, power)
  | false, false => none

/-- The shortest decimal of a positive number as digits and a power of ten. -/
def shortest (x : Binary64) : Nat × Int :=
  let magnitude := x.decimalMagnitude
  let found := (List.range 17).findSome? fun count => x.withDigits? magnitude (count + 1)
  found.getD (x.mantissa, 0)

/-- The decimal `digits * 10 ^ power` in positional notation, with at least one
digit on either side of the point and no zeros at the end that say nothing. -/
def positional (digits : Nat) (power : Int) : String :=
  let text := Nat.toDigits 10 digits
  if 0 ≤ power then String.ofList (text ++ List.replicate power.toNat '0') ++ ".0"
  else
    let places := (-power).toNat
    let padded := List.replicate (places + 1 - text.length) '0' ++ text
    let whole := padded.take (padded.length - places)
    let fraction := padded.drop (padded.length - places)
    let kept := (fraction.reverse.dropWhile (· == '0')).reverse
    String.ofList (whole ++ '.' :: if kept.isEmpty then ['0'] else kept)

def toText (x : Binary64) : String :=
  if x.mantissa = 0 then "0.0"
  else
    let (digits, power) := x.shortest
    positional digits power

end RolloutWatch.Binary64
