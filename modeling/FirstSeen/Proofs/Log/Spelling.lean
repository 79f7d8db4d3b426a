import FirstSeen.Log.Level
import Mathlib.Data.Nat.Digits.Defs
import Mathlib.Tactic.SplitIfs

/-!
How a level may be written. There are two ways: the name in any mixture of the two cases, or a row
of decimal digits, perhaps after one plus sign, that stands for the number of the level. The row may
begin with any number of zeros, since the limit of the word that holds the number concerns its value
alone. No name is a number, so the two ways never meet, and a text names one level at most.
-/
namespace FirstSeen

namespace Text

theorem decimalValue_eq_ofDigits (digits : List Char) :
    decimalValue digits = Nat.ofDigits 10 (digits.reverse.map digitValue) := by
  rw [decimalValue, List.foldl_eq_foldr_reverse, Nat.ofDigits_eq_foldr, List.foldr_map]
  simp only [Nat.cast_id, Nat.add_comm]

theorem exists_sign_append_dropPlus (s : List Char) :
    ∃ sign, (sign = [] ∨ sign = ['+']) ∧ s = sign ++ dropPlus s := by
  unfold dropPlus
  split
  · exact ⟨['+'], Or.inr rfl, rfl⟩
  · exact ⟨[], Or.inl rfl, rfl⟩

theorem dropPlus_of_digits {digits : List Char} (h : ∀ c ∈ digits, c.isDigit = true) :
    dropPlus digits = digits := by
  unfold dropPlus
  split
  · exact absurd (h '+' List.mem_cons_self) (by decide)
  · rfl

theorem mem_of_mem_dropPlus {c : Char} {s : List Char} (h : c ∈ dropPlus s) : c ∈ s := by
  obtain ⟨sign, -, hs⟩ := exists_sign_append_dropPlus s
  rw [hs]
  exact List.mem_append_right sign h

theorem toLower_of_isDigit {c : Char} (h : c.isDigit = true) : c.toLower = c := by
  simp only [Char.isDigit, Bool.and_eq_true, decide_eq_true_eq] at h
  have hletter : ¬('A'.val ≤ c.val ∧ c.val ≤ 'Z'.val) :=
    fun hc => absurd (UInt32.le_trans hc.1 h.2) (by decide)
  exact dif_neg hletter

end Text

namespace Log.Level

open Text

def lowerName (level : Level) : List Char := level.name.toList.map Char.toLower

inductive Spelled (level : Level) : List Char → Prop
  | name {s : List Char} (h : s.map Char.toLower = level.lowerName) : Spelled level s
  | number {sign digits : List Char} (hsign : sign = [] ∨ sign = ['+']) (hne : digits ≠ [])
      (hdigits : ∀ c ∈ digits, c.isDigit = true)
      (hvalue : Nat.ofDigits 10 (digits.reverse.map digitValue) = level.verbosity) :
      Spelled level (sign ++ digits)

variable {s : List Char} {level : Level}

theorem ofNumber?_eq_some_iff {n : ℕ} : ofNumber? n = some level ↔ n = level.verbosity := by
  constructor
  · intro h
    unfold ofNumber? at h
    split at h <;> cases h <;> rfl
  · rintro rfl
    exact ofNumber?_verbosity level

theorem ofName?_eq_some_iff : ofName? s = some level ↔ s = level.lowerName := by
  constructor
  · intro h
    unfold ofName? at h
    split_ifs at h with hs hs hs hs hs <;> cases h <;> exact hs
  · rintro rfl
    cases level <;> rfl

theorem isDigit_of_mem_lowerName {c : Char} (h : c ∈ level.lowerName) : c.isDigit = false := by
  have hall : level.lowerName.all (!·.isDigit) = true := by cases level <;> rfl
  simpa using List.all_eq_true.1 hall c h

theorem verbosity_lt_size (level : Level) : level.verbosity < UInt64.size := by
  cases level <;> decide

theorem numeral?_of_name (h : s.map Char.toLower = level.lowerName) : numeral? s = none := by
  refine Option.eq_none_iff_forall_ne_some.2 fun n hn => ?_
  obtain ⟨hne, hdigits, -⟩ := numeral?_eq_some_iff.1 hn
  obtain ⟨c, hc⟩ := List.exists_mem_of_ne_nil _ hne
  have hdigit : c.isDigit = true := hdigits c hc
  have hmem : c ∈ level.lowerName := by
    rw [← h, ← toLower_of_isDigit hdigit]
    exact List.mem_map_of_mem (mem_of_mem_dropPlus hc)
  rw [isDigit_of_mem_lowerName hmem] at hdigit
  exact Bool.false_ne_true hdigit

theorem spelled_of_read? (h : read? s = some level) : level.Spelled s := by
  unfold read? at h
  cases hn : numeral? s with
  | none =>
    rw [hn] at h
    exact .name (ofName?_eq_some_iff.1 h)
  | some n =>
    rw [hn] at h
    obtain ⟨hne, hdigits, hvalue, -⟩ := numeral?_eq_some_iff.1 hn
    obtain ⟨sign, hsign, hs⟩ := exists_sign_append_dropPlus s
    rw [hs]
    refine .number hsign hne hdigits ?_
    rw [← decimalValue_eq_ofDigits, hvalue]
    exact ofNumber?_eq_some_iff.1 h

theorem read?_of_spelled (h : level.Spelled s) : read? s = some level := by
  cases h with
  | name h =>
    rw [read?, numeral?_of_name h]
    exact ofName?_eq_some_iff.2 h
  | @number sign digits hsign hne hdigits hvalue =>
    have hdrop : dropPlus (sign ++ digits) = digits := by
      rcases hsign with rfl | rfl
      · exact dropPlus_of_digits hdigits
      · rfl
    have hnumeral : numeral? (sign ++ digits) = some level.verbosity := by
      rw [numeral?_eq_some_iff, hdrop, decimalValue_eq_ofDigits]
      exact ⟨hne, hdigits, hvalue, level.verbosity_lt_size⟩
    rw [read?, hnumeral]
    exact ofNumber?_verbosity level

theorem read?_eq_some_iff : read? s = some level ↔ level.Spelled s :=
  ⟨spelled_of_read?, read?_of_spelled⟩

example : read? "+00000000000000000000000000000000000000002".toList = some .warn := by
  decide +kernel

end Log.Level

end FirstSeen
