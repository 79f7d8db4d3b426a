import FirstSeen.Text.Pieces
import FirstSeen.Text.Quoted
import Mathlib.Tactic.SplitIfs

/-!
Quotations read back. What stands for a character tells where it ends, whatever comes behind it: an
escape is a backslash and one more character, or goes on up to the closing brace with the digits of
a code point, and anything else is a character by itself. So a quotation can be taken apart from the
front, and no two texts are quoted alike. It is free of control characters, for they are among the
characters that are not printable, and the digits of a code point are.
-/
namespace FirstSeen.Text

/-- The control characters of Unicode, the category `Cc`. -/
def IsControl (c : Char) : Prop := c.toNat ≤ 0x1F ∨ (0x7F ≤ c.toNat ∧ c.toNat ≤ 0x9F)

instance (c : Char) : Decidable (IsControl c) :=
  inferInstanceAs (Decidable (c.toNat ≤ 0x1F ∨ (0x7F ≤ c.toNat ∧ c.toNat ≤ 0x9F)))

def hexDigitValue (d : Char) : Nat := if d.isDigit then d.toNat - 48 else d.toNat - 87

def hexValue (digits : List Char) : Nat :=
  digits.foldl (fun n d => 16 * n + hexDigitValue d) 0

theorem hexDigitValue_digitChar : ∀ d < 16, hexDigitValue (Nat.digitChar d) = d := by decide

theorem hexValue_concat (digits : List Char) (d : Char) :
    hexValue (digits ++ [d]) = 16 * hexValue digits + hexDigitValue d := by
  simp [hexValue]

theorem hexValue_toDigits (n : Nat) : hexValue (Nat.toDigits 16 n) = n := by
  induction n using Nat.strongRecOn with
  | ind n ih =>
    rw [Nat.toDigits_eq_if (by omega)]
    split
    · rename_i hn
      rw [← List.nil_append [n.digitChar], hexValue_concat, hexDigitValue_digitChar n hn]
      exact Nat.zero_add n
    · rw [hexValue_concat, ih (n / 16) (by omega), hexDigitValue_digitChar _ (by omega)]
      omega

theorem mem_toDigits {n : Nat} {c : Char} (h : c ∈ Nat.toDigits 16 n) :
    ∃ d < 16, c = Nat.digitChar d := by
  induction n using Nat.strongRecOn with
  | ind n ih =>
    rw [Nat.toDigits_eq_if (by omega)] at h
    split at h
    · rename_i hn
      exact ⟨n, hn, List.mem_singleton.1 h⟩
    · rcases List.mem_append.1 h with hfront | hlast
      · exact ih (n / 16) (by omega) hfront
      · exact ⟨n % 16, by omega, List.mem_singleton.1 hlast⟩

theorem digitChar_plain : ∀ d < 16, ¬IsControl (Nat.digitChar d) ∧ Nat.digitChar d ≠ '\x7d' := by
  decide

def unescape? : Char → Option Char
  | '0' => some '\x00'
  | 't' => some '\t'
  | 'r' => some '\r'
  | 'n' => some '\n'
  | '"' => some '"'
  | '\\' => some '\\'
  | _ => none

def readChar : List Char → Option (Char × List Char)
  | [] => none
  | '\\' :: 'u' :: '\x7b' :: rest =>
    some (Char.ofNat (hexValue (cutAt '\x7d' rest).1), (cutAt '\x7d' rest).2)
  | '\\' :: c :: rest => (unescape? c).map fun d => (d, rest)
  | c :: rest => some (c, rest)

theorem readChar_cons {c : Char} (h : c ≠ '\\') (rest : List Char) :
    readChar (c :: rest) = some (c, rest) := by
  unfold readChar
  split <;> simp_all

theorem readChar_codePointEscape (c : Char) (rest : List Char) :
    readChar (codePointEscape c ++ rest) = some (c, rest) := by
  have hbrace : '\x7d' ∉ Nat.toDigits 16 c.toNat := by
    intro h
    obtain ⟨d, hd, heq⟩ := mem_toDigits h
    exact (digitChar_plain d hd).2 heq.symm
  have hcut := cutAt_append_cons hbrace rest
  simp [codePointEscape, readChar, hcut, hexValue_toDigits]

theorem readChar_quotedChar (c : Char) (rest : List Char) :
    readChar (quotedChar c ++ rest) = some (c, rest) := by
  unfold quotedChar
  split_ifs with hzero htab hreturn hline hquote hslash
  · rw [hzero]; rfl
  · rw [htab]; rfl
  · rw [hreturn]; rfl
  · rw [hline]; rfl
  · rw [hquote]; rfl
  · rw [hslash]; rfl
  · exact readChar_codePointEscape c rest
  · exact readChar_cons hslash rest

theorem flatMap_quotedChar_inj {s t : List Char} (h : s.flatMap quotedChar = t.flatMap quotedChar) :
    s = t := by
  induction s generalizing t with
  | nil =>
    cases t with
    | nil => rfl
    | cons d t =>
      have hread := readChar_quotedChar d (t.flatMap quotedChar)
      rw [← List.flatMap_cons, ← h] at hread
      exact absurd hread nofun
  | cons c s ih =>
    have hc := readChar_quotedChar c (s.flatMap quotedChar)
    rw [← List.flatMap_cons, h] at hc
    cases t with
    | nil => exact absurd hc nofun
    | cons d t =>
      rw [List.flatMap_cons, readChar_quotedChar] at hc
      obtain ⟨rfl, hrest⟩ := Prod.mk.inj (Option.some.inj hc)
      rw [ih hrest.symm]

theorem quote_inj {s t : String} : quote s = quote t ↔ s = t := by
  constructor
  · intro h
    have hquoted : quoted s.toList = quoted t.toList := String.ofList_injective h
    rw [quoted, quoted, List.cons_append, List.cons_append, List.cons.injEq] at hquoted
    exact String.toList_inj.1 (flatMap_quotedChar_inj (List.append_cancel_right hquoted.2))
  · exact congrArg quote

theorem not_isControl_of_isPrintable {c : Char} (h : isPrintable c = true) : ¬IsControl c := by
  intro hcontrol
  rw [isPrintable_eq_false_of_control hcontrol] at h
  exact Bool.false_ne_true h

theorem not_isControl_of_all {s : List Char} (h : s.all (fun c => !decide (IsControl c)) = true) :
    ∀ c ∈ s, ¬IsControl c := by
  intro c hc
  have hplain := List.all_eq_true.1 h c hc
  rwa [Bool.not_eq_true', decide_eq_false_iff_not] at hplain

theorem not_isControl_codePointEscape (c : Char) : ∀ x ∈ codePointEscape c, ¬IsControl x := by
  rw [codePointEscape, List.forall_mem_append, List.forall_mem_append]
  refine ⟨⟨not_isControl_of_all rfl, ?_⟩, not_isControl_of_all rfl⟩
  intro x hx
  obtain ⟨d, hd, rfl⟩ := mem_toDigits hx
  exact (digitChar_plain d hd).1

theorem not_isControl_quotedChar (c : Char) : ∀ x ∈ quotedChar c, ¬IsControl x := by
  unfold quotedChar
  split_ifs with hzero htab hreturn hline hquote hslash hescaped
  -- The escapes with a letter have two characters each.
  iterate 6 exact not_isControl_of_all rfl
  · exact not_isControl_codePointEscape c
  · simp only [Bool.or_eq_true, Bool.not_eq_true', not_or, Bool.not_eq_false] at hescaped
    exact List.forall_mem_singleton.2 (not_isControl_of_isPrintable hescaped.2)

theorem not_isControl_quote (s : String) : ∀ x ∈ (quote s).toList, ¬IsControl x := by
  rw [quote, String.toList_ofList, quoted, List.forall_mem_append, List.forall_mem_cons]
  refine ⟨⟨by decide, ?_⟩, not_isControl_of_all rfl⟩
  intro x hx
  obtain ⟨c, _, hc⟩ := List.mem_flatMap.1 hx
  exact not_isControl_quotedChar c x hc

end FirstSeen.Text
