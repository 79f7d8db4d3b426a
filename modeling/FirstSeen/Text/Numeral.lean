/-!
Unsigned decimal numbers of 64 bits: an optional plus sign and then one or more of the ten ASCII
digits. Leading zeros do not matter, and a number that needs more than 64 bits is none.
-/
namespace FirstSeen.Text

def digitValue (c : Char) : Nat := c.toNat - 48

def decimalValue (digits : List Char) : Nat := digits.foldl (fun n c => 10 * n + digitValue c) 0

def dropPlus : List Char → List Char
  | '+' :: rest => rest
  | s => s

def numeral? (s : List Char) : Option Nat :=
  let digits := dropPlus s
  if digits ≠ [] ∧ digits.all Char.isDigit then
    let n := decimalValue digits
    if n < UInt64.size then some n else none
  else none

theorem numeral?_eq_some_iff {s : List Char} {n : Nat} :
    numeral? s = some n ↔ dropPlus s ≠ [] ∧ (∀ c ∈ dropPlus s, c.isDigit = true) ∧
      decimalValue (dropPlus s) = n ∧ n < UInt64.size := by
  unfold numeral?
  by_cases h : dropPlus s ≠ [] ∧ (dropPlus s).all Char.isDigit = true
  · have hall : ∀ c ∈ dropPlus s, c.isDigit = true := List.all_eq_true.1 h.2
    simp only [h, and_self, if_true, ne_eq, not_false_eq_true, true_and]
    by_cases hn : decimalValue (dropPlus s) < UInt64.size
    · simp only [hn, if_true, Option.some.injEq]
      constructor
      · rintro rfl
        exact ⟨hall, rfl, hn⟩
      · exact fun hr => hr.2.1
    · simp only [hn, if_false, reduceCtorEq, false_iff]
      rintro ⟨_, rfl, hlt⟩
      exact hn hlt
  · simp only [h, if_false, reduceCtorEq, false_iff]
    rintro ⟨hne, hall, _⟩
    exact h ⟨hne, List.all_eq_true.2 hall⟩

end FirstSeen.Text
