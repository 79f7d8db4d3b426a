/-!
Sets of characters given as a table of closed intervals of code points in increasing order. A
look-up walks the table and stops at the first interval that begins beyond the character, so a
character near the front of the code space costs a few steps only.
-/
namespace FirstSeen.Text

/-- Whether `n` lies in one of the intervals of an increasing table. -/
def covers : List (Nat × Nat) → Nat → Bool
  | [], _ => false
  | (low, high) :: rest, n => if n < low then false else decide (n ≤ high) || covers rest n

theorem covers_head {low high n : Nat} {rest : List (Nat × Nat)} (hl : low ≤ n) (hh : n ≤ high) :
    covers ((low, high) :: rest) n = true := by
  simp [covers, Nat.not_lt.2 hl, hh]

theorem covers_tail {low high n : Nat} {rest : List (Nat × Nat)} (hl : low ≤ n)
    (h : covers rest n = true) : covers ((low, high) :: rest) n = true := by
  simp [covers, Nat.not_lt.2 hl, h]

end FirstSeen.Text
