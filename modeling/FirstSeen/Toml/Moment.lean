import FirstSeen.Text.Numeral
import FirstSeen.Toml.Spacing
import FirstSeen.Toml.Value

/-!
Dates and times in TOML. A date has a month that exists and a day that the month has in its year; a
time has seconds up to sixty and perhaps a fraction of a second. A date may be followed by a time
after a space or the letter T, and then by a distance from universal time, which is less than a day.
-/
namespace FirstSeen.Toml

def twoDigits : Reader Nat
  | a :: b :: rest =>
    if a.isDigit ∧ b.isDigit then some (Text.decimalValue [a, b], rest) else none
  | _ => none

def fourDigits (s : List Char) : Option (Nat × List Char) := do
  let (high, rest) ← twoDigits s
  let (low, rest) ← twoDigits rest
  return (100 * high + low, rest)

def mark (c : Char) : List Char → Option (List Char)
  | d :: rest => if d = c then some rest else none
  | [] => none

def isLeapYear (year : Nat) : Bool := year % 4 = 0 && (year % 100 ≠ 0 || year % 400 = 0)

def daysIn (year month : Nat) : Nat :=
  if month = 2 then if isLeapYear year then 29 else 28
  else if month = 4 ∨ month = 6 ∨ month = 9 ∨ month = 11 then 30
  else 31

def date (s : List Char) : Option (Date × List Char) := do
  let (year, rest) ← fourDigits s
  let rest ← mark '-' rest
  let (month, rest) ← twoDigits rest
  let rest ← mark '-' rest
  let (day, rest) ← twoDigits rest
  if 1 ≤ month ∧ month ≤ 12 ∧ 1 ≤ day ∧ day ≤ daysIn year month then
    return (⟨year, month, day⟩, rest)
  else none

def secondFraction : List Char → List Char × List Char
  | '.' :: rest =>
    match rest.takeWhile Char.isDigit with
    | [] => ([], '.' :: rest)
    | digits => (digits, rest.dropWhile Char.isDigit)
  | s => ([], s)

def time (s : List Char) : Option (Time × List Char) := do
  let (hour, rest) ← twoDigits s
  let rest ← mark ':' rest
  let (minute, rest) ← twoDigits rest
  let rest ← mark ':' rest
  let (second, rest) ← twoDigits rest
  let (fraction, rest) := secondFraction rest
  if hour ≤ 23 ∧ minute ≤ 59 ∧ second ≤ 60 then return (⟨hour, minute, second, fraction⟩, rest)
  else none

def offset : Reader (Option Int)
  | c :: rest =>
    if c = 'Z' ∨ c = 'z' then some (some 0, rest)
    else if c = '+' ∨ c = '-' then do
      let (hour, rest) ← twoDigits rest
      let rest ← mark ':' rest
      let (minute, rest) ← twoDigits rest
      if hour ≤ 23 ∧ minute ≤ 59 then
        let minutes : Int := hour * 60 + minute
        return (some (if c = '-' then -minutes else minutes), rest)
      else none
    else some (none, c :: rest)
  | [] => some (none, [])

/-- The time after a date, if there is one; without one, the space after the date is left alone. -/
def timeAfterDate : Reader (Option Time × Option Int)
  | c :: rest =>
    if c = 'T' ∨ c = 't' ∨ c = ' ' then
      match time rest with
      | some (time, rest) => do
        let (offset, rest) ← offset rest
        return ((some time, offset), rest)
      | none => some ((none, none), c :: rest)
    else some ((none, none), c :: rest)
  | [] => some ((none, none), [])

def looksLikeDate (s : List Char) : Bool :=
  match fourDigits s with
  | some (_, '-' :: _) => true
  | _ => false

def looksLikeTime (s : List Char) : Bool :=
  match twoDigits s with
  | some (_, ':' :: _) => true
  | _ => false

def dateTime (s : List Char) : Option (Moment × List Char) := do
  let (date, rest) ← date s
  let ((time, offset), rest) ← timeAfterDate rest
  return (⟨some date, time, offset⟩, rest)

def timeOnly (s : List Char) : Option (Moment × List Char) := do
  let (time, rest) ← time s
  return (⟨none, some time, none⟩, rest)

end FirstSeen.Toml
