/-!
Binary floating-point numbers of 64 bits, as exact numbers. A finite one is a sign, a mantissa of at
most 53 bits and an exponent of two; among the ways to write a value the one with the largest
mantissa is taken, and the exponent never falls below -1074. A decimal number is read as the nearest
of these, and of two equally near ones as the one with the even mantissa.
-/
namespace FirstSeen.Decimal

inductive Double where
  | nan
  | infinite (negative : Bool)
  | finite (negative : Bool) (mantissa : Nat) (exponent : Int)
  deriving DecidableEq

def minExponent : Int := -1074

def maxExponent : Int := 971

def roundHalfEven (num den : Nat) : Nat :=
  let q := num / den
  let twice := 2 * (num % den)
  if twice < den then q
  else if den < twice then q + 1
  else if q % 2 = 0 then q else q + 1

def scale (num den : Nat) (e : Int) : Nat × Nat :=
  if 0 ≤ e then (num * Nat.pow 2 e.toNat, den) else (num, den * Nat.pow 2 (-e).toNat)

def floorLog2 (num den : Nat) : Int :=
  let k : Int := (num.log2 : Int) - (den.log2 : Int)
  let (n, d) := scale num den (-k)
  if d ≤ n then k else k - 1

def Double.zero (negative : Bool) : Double := .finite negative 0 minExponent

def Double.ofQuotient (negative : Bool) (num den : Nat) : Double :=
  let exponent := max (floorLog2 num den - 52) minExponent
  let (n, d) := scale num den (-exponent)
  let mantissa := roundHalfEven n d
  let (mantissa, exponent) :=
    if mantissa = Nat.pow 2 53 then (Nat.pow 2 52, exponent + 1) else (mantissa, exponent)
  if maxExponent < exponent then .infinite negative else .finite negative mantissa exponent

def digitCount (n : Nat) : Nat := (Nat.toDigits 10 n).length

/-- Reads `digits * 10 ^ exponent`. Beyond 10 ^ 310 all is infinite, and below 10 ^ -330 all is
zero, so no larger power is ever formed. -/
def Double.ofDecimal (negative : Bool) (digits : Nat) (exponent : Int) : Double :=
  let magnitude := (digitCount digits : Int) + exponent
  if digits = 0 ∨ magnitude < -330 then .zero negative
  else if 310 < magnitude then .infinite negative
  else if 0 ≤ exponent then .ofQuotient negative (digits * Nat.pow 10 exponent.toNat) 1
  else .ofQuotient negative digits (Nat.pow 10 (-exponent).toNat)

end FirstSeen.Decimal
