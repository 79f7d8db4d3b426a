import FirstSeen.Text.Numeral

/-!
Severity of log events, and how severe an event must be to pass. A level is written by its name in
either case or by its number from 1, the most severe, to 5; a threshold is a level or `off`, which
has the number 0 and lets nothing pass. Nothing may stand around the name or the number.
-/
namespace FirstSeen.Log

inductive Level where
  | error
  | warn
  | info
  | debug
  | trace
  deriving DecidableEq

namespace Level

def verbosity : Level → Nat
  | .error => 1
  | .warn => 2
  | .info => 3
  | .debug => 4
  | .trace => 5

def name : Level → String
  | .error => "ERROR"
  | .warn => "WARN"
  | .info => "INFO"
  | .debug => "DEBUG"
  | .trace => "TRACE"

def ofNumber? : Nat → Option Level
  | 1 => some .error
  | 2 => some .warn
  | 3 => some .info
  | 4 => some .debug
  | 5 => some .trace
  | _ => none

def ofName? (s : List Char) : Option Level :=
  if s = ['e', 'r', 'r', 'o', 'r'] then some .error
  else if s = ['w', 'a', 'r', 'n'] then some .warn
  else if s = ['i', 'n', 'f', 'o'] then some .info
  else if s = ['d', 'e', 'b', 'u', 'g'] then some .debug
  else if s = ['t', 'r', 'a', 'c', 'e'] then some .trace
  else none

/-- Reads a level by number or by name; case is that of the ASCII letters. -/
def read? (s : List Char) : Option Level :=
  match Text.numeral? s with
  | some n => ofNumber? n
  | none => ofName? (s.map Char.toLower)

theorem ofNumber?_verbosity (level : Level) : ofNumber? level.verbosity = some level := by
  cases level <;> rfl

end Level

inductive Threshold where
  | off
  | upTo (level : Level)
  deriving DecidableEq

namespace Threshold

def verbosity : Threshold → Nat
  | .off => 0
  | .upTo level => level.verbosity

def admits (t : Threshold) (level : Level) : Bool := decide (level.verbosity ≤ t.verbosity)

def ofNumber? : Nat → Option Threshold
  | 0 => some .off
  | n => (Level.ofNumber? n).map .upTo

def ofName? (s : List Char) : Option Threshold :=
  if s = ['o', 'f', 'f'] then some .off else (Level.ofName? s).map .upTo

def read? (s : List Char) : Option Threshold :=
  match Text.numeral? s with
  | some n => ofNumber? n
  | none => ofName? (s.map Char.toLower)

theorem admits_of_le {t : Threshold} {a b : Level} (h : b.verbosity ≤ a.verbosity)
    (ha : t.admits a = true) : t.admits b = true := by
  simp only [admits, decide_eq_true_eq] at ha ⊢
  omega

end Threshold

end FirstSeen.Log
