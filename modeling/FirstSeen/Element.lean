import FirstSeen.Text.Quoted
import FirstSeen.Text.Shown
import FirstSeen.Unique.Dedup

/-!
Elements of mixed kinds and the rules by which they are told apart. An element is a flag, a number
of 64 bits, a text, or a number under a label; elements of different kinds are never equal. A rule
turns an element into the key under which it is compared; a rule that looks at one kind only leaves
the elements of the other kinds as they are. One rule counts how often it was asked, so its answers
depend on the questions before.
-/
namespace FirstSeen

inductive Element where
  | flag (b : Bool)
  | number (n : Int64)
  | text (s : String)
  | labelled (label : String) (n : Int64)
  deriving DecidableEq

namespace Element

open Text (Shown quote)

def written : Element → String
  | .flag b => if b then "true" else "false"
  | .number n => toString n.toInt
  | .text s => quote s
  | .labelled label n => "(" ++ quote label ++ ", " ++ toString n.toInt ++ ")"

def shown (e : Element) : Shown := .bare e.written

def rank : Element → Nat
  | .flag _ => 0
  | .number _ => 1
  | .text _ => 2
  | .labelled _ _ => 3

def le : Element → Element → Bool
  | .flag a, .flag b => !a || b
  | .number a, .number b => a ≤ b
  | .text a, .text b => a ≤ b
  | .labelled a m, .labelled b n => a < b || (a == b && m ≤ n)
  | a, b => a.rank ≤ b.rank

def sort (elements : List Element) : List Element := elements.mergeSort le

inductive KeyRule where
  | same
  | const
  | calls (divisor : Int64)
  | firstChar
  | bytes
  | chars
  | lowerAscii
  | remainder (divisor : Int64)
  | quotient (divisor : Int64)
  | labelPart
  | numberPart
  deriving DecidableEq

/-- The key of an element at a given number of earlier questions. Remainder and quotient go toward
zero and wrap round at the smallest number. -/
def KeyRule.key : KeyRule → Nat → Element → Element
  | .same, _, e => e
  | .const, _, _ => .number 0
  | .calls divisor, asked, _ => .number (Int64.ofNat asked / divisor)
  | .firstChar, _, .text s => .text (String.ofList (s.toList.take 1))
  | .bytes, _, .text s => .number (Int64.ofNat s.utf8ByteSize)
  | .chars, _, .text s => .number (Int64.ofNat s.length)
  | .lowerAscii, _, .text s => .text (String.ofList (s.toList.map Char.toLower))
  | .remainder divisor, _, .number n => .number (n % divisor)
  | .quotient divisor, _, .number n => .number (n / divisor)
  | .labelPart, _, .labelled label _ => .text label
  | .numberPart, _, .labelled _ n => .number n
  | _, _, e => e

def KeyRule.proc (rule : KeyRule) : Unique.KeyProc Nat Element Element :=
  fun asked e => (rule.key asked e, asked + 1)

end Element

end FirstSeen
