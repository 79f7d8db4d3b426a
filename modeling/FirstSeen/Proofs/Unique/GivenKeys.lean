import FirstSeen.Unique.Keys
import Mathlib.Data.Finset.Card

/-!
Sets of keys against the keys that they were given. A set starts out empty, by default, or from a
row of keys, and then takes in single keys and whole rows. A key is in the set exactly when it is
among those given so far, and this one fact is all that a history leaves behind: the size, the
answer to the next insertion and the keys met when the set is walked through follow from it. So
order, repetition and the way in which keys were put together cancel out.
-/
namespace FirstSeen.Unique.Keys

variable {κ : Type}

inductive Start (κ : Type) where
  | new
  | default
  | ofList (row : List κ)

inductive Insertion (κ : Type) where
  | add (k : κ)
  | extend (row : List κ)

structure History (κ : Type) where
  start : Start κ
  insertions : List (Insertion κ)

def Start.given : Start κ → List κ
  | .new => []
  | .default => []
  | .ofList row => row

def Insertion.given : Insertion κ → List κ
  | .add k => [k]
  | .extend row => row

def History.given (h : History κ) : List κ :=
  h.start.given ++ h.insertions.flatMap Insertion.given

variable [DecidableEq κ]

def Start.keys : Start κ → Keys κ
  | .new => Keys.empty
  | .default => Inhabited.default
  | .ofList row => Keys.ofList row

def after (ks : Keys κ) : Insertion κ → Keys κ
  | .add k => (ks.add k).2
  | .extend row => ks.extend row

def History.keys (h : History κ) : Keys κ := h.insertions.foldl after h.start.keys

theorem has_start (start : Start κ) (k : κ) : start.keys.has k = true ↔ k ∈ start.given := by
  cases start with
  | new => simp [Start.keys, Start.given, has_empty]
  | default => exact ⟨fun h => absurd h Bool.false_ne_true, fun h => absurd h List.not_mem_nil⟩
  | ofList row => simp [Start.keys, Start.given, ofList, has_extend, has_empty]

theorem has_after (ks : Keys κ) (insertion : Insertion κ) (k : κ) :
    (ks.after insertion).has k = true ↔ k ∈ insertion.given ∨ ks.has k = true := by
  cases insertion with
  | add added => simp [after, Insertion.given, add, has_insert]
  | extend row => exact has_extend

theorem has_foldl_after (ks : Keys κ) (insertions : List (Insertion κ)) (k : κ) :
    (insertions.foldl after ks).has k = true ↔
      k ∈ insertions.flatMap Insertion.given ∨ ks.has k = true := by
  induction insertions generalizing ks with
  | nil => simp
  | cons insertion rest ih =>
    rw [List.foldl_cons, ih, has_after, List.flatMap_cons, List.mem_append, or_left_comm, or_assoc]

theorem History.has_keys (h : History κ) (k : κ) : h.keys.has k = true ↔ k ∈ h.given := by
  rw [History.keys, has_foldl_after, has_start, History.given, List.mem_append, or_comm]

variable {ks others : Keys κ} {given : List κ}

theorem size_of_has (h : ∀ k, ks.has k = true ↔ k ∈ given) : ks.size = given.toFinset.card := by
  rw [size, ← List.toFinset_card_of_nodup ks.nodup]
  congr 1
  ext k
  rw [List.mem_toFinset, List.mem_toFinset, ← has_iff, h]

theorem isEmpty_of_has (h : ∀ k, ks.has k = true ↔ k ∈ given) :
    ks.isEmpty = true ↔ given = [] := by
  rw [isEmpty, List.isEmpty_iff, List.eq_nil_iff_forall_not_mem, List.eq_nil_iff_forall_not_mem]
  simp only [← has_iff, h]

theorem count_of_has (h : ∀ k, ks.has k = true ↔ k ∈ given) (k : κ) :
    ks.toList.count k = if k ∈ given then 1 else 0 := by
  by_cases hk : k ∈ given
  · rw [if_pos hk]
    exact List.count_eq_one_of_mem ks.nodup (has_iff.1 ((h k).2 hk))
  · rw [if_neg hk]
    exact List.count_eq_zero_of_not_mem fun hmem => hk ((h k).1 (has_iff.2 hmem))

theorem perm_of_has (h : ∀ k, ks.has k = others.has k) : ks.toList.Perm others.toList := by
  apply (List.perm_ext_iff_of_nodup ks.nodup others.nodup).2
  intro k
  rw [← has_iff, ← has_iff, h]

/-- A set holds what it was given, every key once; two histories that give the same keys leave the
same behind. -/
theorem History.keys_of_given (h : History κ) :
    (∀ k, h.keys.has k = true ↔ k ∈ h.given) ∧
    (∀ k, (h.keys.add k).1 = true ↔ h.keys.has k = false) ∧
    h.keys.size = h.given.toFinset.card ∧
    (h.keys.isEmpty = true ↔ h.given = []) ∧
    (∀ k, h.keys.toList.count k = if k ∈ h.given then 1 else 0) ∧
    ∀ other : History κ, (∀ k, k ∈ other.given ↔ k ∈ h.given) →
      (∀ k, other.keys.has k = h.keys.has k) ∧ other.keys.size = h.keys.size ∧
        other.keys.toList.Perm h.keys.toList := by
  refine ⟨h.has_keys, ?_, size_of_has h.has_keys, isEmpty_of_has h.has_keys,
    count_of_has h.has_keys, ?_⟩
  · intro k
    rw [add, Bool.not_eq_true']
  · intro other hgiven
    have hhas : ∀ k, other.keys.has k = true ↔ k ∈ h.given := fun k =>
      (other.has_keys k).trans (hgiven k)
    have hsame : ∀ k, other.keys.has k = h.keys.has k := fun k =>
      Bool.eq_iff_iff.2 ((hhas k).trans (h.has_keys k).symm)
    refine ⟨hsame, ?_, perm_of_has hsame⟩
    rw [size_of_has hhas, size_of_has h.has_keys]

theorem History.keys_of_given_three_keys :
    let h : History ℕ := ⟨.ofList [5, 3, 5], [.add 8]⟩
    let other : History ℕ := ⟨.default, [.extend [], .add 8, .extend [3, 8], .add 5, .add 3]⟩
    (∀ k, k ∈ other.given ↔ k ∈ h.given) ∧ other.keys.size = h.keys.size ∧
      other.keys.toList.Perm h.keys.toList ∧ h.keys.toList ≠ other.keys.toList := by
  intro h other
  have hset : other.given.toFinset = h.given.toFinset := by decide
  have hgiven : ∀ k, k ∈ other.given ↔ k ∈ h.given := by
    intro k
    rw [← List.mem_toFinset, hset, List.mem_toFinset]
  obtain ⟨-, hsize, hperm⟩ := h.keys_of_given.2.2.2.2.2 other hgiven
  exact ⟨hgiven, hsize, hperm, by decide⟩

end FirstSeen.Unique.Keys
