/-!
How deep a pattern is nested. A single character, a class with a name and a setting of flags have
depth zero. A repetition, a group and a pair of brackets are one deeper than what they hold. So are
parts that stand in a row, if there are at least two, and alternatives, of which there are at least
two; the operators inside brackets join two sides each, and what they have joined is the left side
of the next. The depth is found while a pattern is read, and nothing of the pattern is kept.
-/
namespace FirstSeen.Log.Pattern

/-- Parts in a row: their number, the depth of all but the last, and the depth of the last if it
can be repeated. -/
structure Row where
  parts : Nat
  earlier : Nat
  last : Option Nat
  deriving DecidableEq

namespace Row

def empty : Row := ⟨0, 0, none⟩

def deepest (r : Row) : Nat := max r.earlier (r.last.getD 0)

def depth (r : Row) : Nat := if r.parts ≤ 1 then r.deepest else r.deepest + 1

def add (r : Row) (depth : Nat) : Row := ⟨r.parts + 1, r.deepest, some depth⟩

def mark (r : Row) : Row := ⟨r.parts + 1, r.deepest, none⟩

def repeated? (r : Row) : Option Row := r.last.map fun depth => { r with last := some (depth + 1) }

end Row

/-- A row that is being read, and the depth of what stands to its left and is to be joined with
it. -/
structure Nest where
  left : Option Nat
  row : Row
  deriving DecidableEq

namespace Nest

def empty : Nest := ⟨none, Row.empty⟩

def depth (n : Nest) : Nat :=
  match n.left with
  | none => n.row.depth
  | some left => max left n.row.depth + 1

def add (n : Nest) (depth : Nat) : Nest := { n with row := n.row.add depth }

def mark (n : Nest) : Nest := { n with row := n.row.mark }

def repeated? (n : Nest) : Option Nest := n.row.repeated?.map fun row => { n with row }

def alternate (n : Nest) : Nest := ⟨some (max (n.left.getD 0) n.row.depth), Row.empty⟩

def operate (n : Nest) : Nest := ⟨some n.depth, Row.empty⟩

end Nest

def maxDepth : Nat := 250

end FirstSeen.Log.Pattern
