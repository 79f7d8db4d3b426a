import FirstSeen.Decimal.Double

/-!
The shortest decimal number that is read back as a given floating-point number. All real numbers
between the midpoints to the two neighbours are read as the number, the midpoints themselves exactly
if its mantissa is even. For one, two, and so on up to seventeen digits the two multiples of the
grid next to the number are tried; the first grid with a hit wins, and of two hits the nearer one,
or the upper one if both are equally near. The decimal is written without an exponent and always
with a point.
-/
namespace FirstSeen.Decimal

/-- The real numbers that are read as one floating-point number, over a common denominator. -/
structure Rounding where
  low : Nat
  value : Nat
  high : Nat
  den : Nat
  closed : Bool

/-- What is read as `mantissa * 2 ^ exponent`. The neighbour below a power of two is nearer. -/
def Rounding.of (mantissa : Nat) (exponent : Int) : Rounding :=
  let below := if mantissa = Nat.pow 2 52 ∧ minExponent < exponent then 1 else 2
  let (unit, den) := scale 1 1 (exponent - 2)
  ⟨(4 * mantissa - below) * unit, 4 * mantissa * unit, (4 * mantissa + 2) * unit, den,
    mantissa % 2 = 0⟩

def Rounding.holds (r : Rounding) (n d : Nat) : Bool :=
  let x := n * r.den
  if r.closed then decide (r.low * d ≤ x ∧ x ≤ r.high * d)
  else decide (r.low * d < x ∧ x < r.high * d)

def floorLog10 (num den : Nat) : Int :=
  if den ≤ num then (digitCount (num / den) : Int) - 1
  else
    let ratio := (den + num - 1) / num
    0 - (digitCount (ratio - 1) : Int)

def Rounding.onGrid (r : Rounding) (exponent : Int) : Option Nat :=
  let up := Nat.pow 10 exponent.toNat
  let down := Nat.pow 10 (-exponent).toNat
  let num := r.value * down
  let den := r.den * up
  let floor := num / den
  let ceil := floor + 1
  match r.holds (floor * up) down, r.holds (ceil * up) down with
  | true, true => some (if 2 * (num % den) < den then floor else ceil)
  | true, false => some floor
  | false, true => some ceil
  | false, false => none

def Rounding.search (r : Rounding) : Nat → Int → Nat × Int
  | 0, exponent => (0, exponent)
  | fuel + 1, exponent =>
    match r.onGrid exponent with
    | some digits => (digits, exponent)
    | none => r.search fuel (exponent - 1)

def shortest (mantissa : Nat) (exponent : Int) : Nat × Int :=
  let r := Rounding.of mantissa exponent
  r.search 17 (floorLog10 r.value r.den)

def dropTrailingZeros (digits : List Char) : List Char :=
  (digits.reverse.dropWhile (· = '0')).reverse

def positional (digits : Nat) (exponent : Int) : List Char :=
  let ds := Nat.toDigits 10 digits
  if 0 ≤ exponent then ds ++ List.replicate exponent.toNat '0' ++ ['.', '0']
  else
    let places := (-exponent).toNat
    let padded := List.replicate (places + 1 - ds.length) '0' ++ ds
    let whole := padded.take (padded.length - places)
    let fraction := dropTrailingZeros (padded.drop (padded.length - places))
    whole ++ ['.'] ++ if fraction = [] then ['0'] else fraction

def Double.text : Double → String
  | .nan => "NaN"
  | .infinite negative => if negative then "-inf" else "inf"
  | .finite negative mantissa exponent =>
    let sign := if negative then ['-'] else []
    if mantissa = 0 then String.ofList (sign ++ ['0', '.', '0'])
    else
      let (digits, power) := shortest mantissa exponent
      String.ofList (sign ++ positional digits power)

end FirstSeen.Decimal
