import FirstSeen.Text.Numeral
import FirstSeen.Toml.Quoted
import FirstSeen.Toml.Value

/-!
Whole numbers and floating-point numbers in TOML. Digits may be grouped by single underscores, each
between two digits. A whole number fits 64 bits with sign; it may be written in base sixteen, eight
or two without a sign, and in base ten without leading zeros. A decimal with a fraction, an exponent
or both is a floating-point number, and one that is too large is refused.
-/
namespace FirstSeen.Toml

open Decimal (Double)

def digitTail (isDigit : Char → Bool) : List Char → List Char × List Char
  | [] => ([], [])
  | c :: rest =>
    if isDigit c then
      let (digits, rest) := digitTail isDigit rest
      (c :: digits, rest)
    else if c = '_' then
      match rest with
      | d :: rest' =>
        if isDigit d then
          let (digits, rest) := digitTail isDigit rest'
          (d :: digits, rest)
        else ([], c :: rest)
      | [] => ([], [c])
    else ([], c :: rest)

def digits? (isDigit : Char → Bool) : Reader (List Char)
  | c :: rest =>
    if isDigit c then
      let (digits, rest) := digitTail isDigit rest
      some (c :: digits, rest)
    else none
  | [] => none

def wholePart? : Reader (List Char)
  | '0' :: rest => some (['0'], rest)
  | s => digits? Char.isDigit s

def baseValue (base : Nat) (digits : List Char) : Nat :=
  digits.foldl (fun n c => base * n + (hexDigit? c).getD 0) 0

def isDigitBelow (base : Nat) (c : Char) : Bool :=
  match hexDigit? c with
  | some d => decide (d < base)
  | none => false

def inRange? (n : Int) : Option Int :=
  if Int64.minValue.toInt ≤ n ∧ n ≤ Int64.maxValue.toInt then some n else none

def sign : List Char → Bool × List Char
  | '-' :: rest => (true, rest)
  | '+' :: rest => (false, rest)
  | s => (false, s)

def inBase (base : Nat) (s : List Char) : Option (Value × List Char) := do
  let (digits, rest) ← digits? (isDigitBelow base) s
  return (.integer (← inRange? (baseValue base digits)), rest)

def fraction? : Reader (List Char)
  | '.' :: rest => digits? Char.isDigit rest
  | s => some ([], s)

def power? : Reader Int
  | c :: rest =>
    if c = 'e' ∨ c = 'E' then do
      let (negative, rest) := sign rest
      let (digits, rest) ← digits? Char.isDigit rest
      let n : Int := Text.decimalValue digits
      return (if negative then -n else n, rest)
    else some (0, c :: rest)
  | [] => some (0, [])

def finite? (x : Double) : Option Double := if x = .infinite false then none else some x

def decimal (negative : Bool) (s : List Char) : Option (Value × List Char) := do
  let (whole, afterWhole) ← wholePart? s
  let (fraction, afterFraction) ← fraction? afterWhole
  let (power, rest) ← power? afterFraction
  if rest.length = afterWhole.length then
    let n : Int := Text.decimalValue whole
    return (.integer (← inRange? (if negative then -n else n)), rest)
  else
    let x := Double.ofDecimal negative (Text.decimalValue (whole ++ fraction))
      (power - fraction.length)
    return (.float (← finite? x), rest)

def number : Reader Value
  | '0' :: 'x' :: rest => inBase 16 rest
  | '0' :: 'o' :: rest => inBase 8 rest
  | '0' :: 'b' :: rest => inBase 2 rest
  | s =>
    let (negative, rest) := sign s
    match rest with
    | 'i' :: 'n' :: 'f' :: rest => some (.float (.infinite negative), rest)
    | 'n' :: 'a' :: 'n' :: rest => some (.float .nan, rest)
    | rest => decimal negative rest

end FirstSeen.Toml
