/-!
A set of keys that tells, at each insertion, whether the key was new. The keys stand without
repetition, so the size counts the different keys ever inserted. What a history of insertions leaves
behind is described by membership alone.
-/
namespace FirstSeen.Unique

/-- Keys without repetition; the order in which they stand carries no meaning. -/
structure Keys (κ : Type) where
  toList : List κ
  nodup : toList.Nodup

namespace Keys

variable {κ : Type}

def empty : Keys κ := ⟨[], List.nodup_nil⟩

instance : Inhabited (Keys κ) := ⟨empty⟩

def size (ks : Keys κ) : Nat := ks.toList.length

def isEmpty (ks : Keys κ) : Bool := ks.toList.isEmpty

variable [DecidableEq κ]

def has (ks : Keys κ) (k : κ) : Bool := decide (k ∈ ks.toList)

def insert (ks : Keys κ) (k : κ) : Keys κ :=
  if h : k ∈ ks.toList then ks else ⟨k :: ks.toList, List.nodup_cons.2 ⟨h, ks.nodup⟩⟩

def add (ks : Keys κ) (k : κ) : Bool × Keys κ := (!ks.has k, ks.insert k)

def extend (ks : Keys κ) (new : List κ) : Keys κ := new.foldl insert ks

def ofList (new : List κ) : Keys κ := empty.extend new

theorem has_iff {ks : Keys κ} {k : κ} : ks.has k = true ↔ k ∈ ks.toList := by simp [has]

theorem has_empty (k : κ) : (empty : Keys κ).has k = false := rfl

theorem mem_insert {ks : Keys κ} {k x : κ} : x ∈ (ks.insert k).toList ↔ x = k ∨ x ∈ ks.toList := by
  unfold insert
  split
  · rename_i h
    exact ⟨Or.inr, fun hx => hx.elim (fun e => e ▸ h) id⟩
  · simp

theorem has_insert {ks : Keys κ} {k x : κ} :
    (ks.insert k).has x = true ↔ x = k ∨ ks.has x = true := by
  simp [has_iff, mem_insert]

theorem has_insert_eq (ks : Keys κ) (k x : κ) :
    (ks.insert k).has x = (decide (x = k) || ks.has x) := by
  rw [Bool.eq_iff_iff, has_insert]
  simp

theorem insert_of_has {ks : Keys κ} {k : κ} (h : ks.has k = true) : ks.insert k = ks := by
  simp [insert, has_iff.1 h]

theorem has_extend {ks : Keys κ} {new : List κ} {x : κ} :
    (ks.extend new).has x = true ↔ x ∈ new ∨ ks.has x = true := by
  induction new generalizing ks with
  | nil => simp [extend]
  | cons k rest ih =>
    have h := @ih (ks.insert k)
    simp only [extend, List.foldl_cons, List.mem_cons] at h ⊢
    rw [h, has_insert]
    constructor
    · rintro (h | h | h) <;> simp [h]
    · rintro ((h | h) | h) <;> simp [h]

theorem has_extend_eq (ks : Keys κ) (new : List κ) (x : κ) :
    (ks.extend new).has x = (decide (x ∈ new) || ks.has x) := by
  rw [Bool.eq_iff_iff, has_extend]
  simp

end Keys

end FirstSeen.Unique
