import FirstSeen.Unique.Dedup

/-!
A sequence that grows one element at a time and never takes in two elements with the same key. Its
key procedure is fixed; the procedure's memory belongs to the roster, so two rosters that start out
equal go their own ways afterwards. An element enters exactly when its key answer is new, and it
enters at the end.
-/
namespace FirstSeen.Unique

structure Roster {σ α κ : Type} (key : KeyProc σ α κ) where
  items : Array α
  seen : Keys κ
  memory : σ

namespace Roster

variable {σ α κ : Type} {key : KeyProc σ α κ}

def withKey (key : KeyProc σ α κ) (memory : σ) : Roster key := ⟨#[], Keys.empty, memory⟩

def new : Roster (KeyProc.same : KeyProc Unit α α) := withKey KeyProc.same ()

def toList (r : Roster key) : List α := r.items.toList

def intoItems (r : Roster key) : Array α := r.items

def size (r : Roster key) : Nat := r.items.size

def isEmpty (r : Roster key) : Bool := r.items.isEmpty

theorem size_eq_length (r : Roster key) : r.size = r.toList.length := Array.length_toList.symm

variable [DecidableEq κ]

def containsKey (r : Roster key) (k : κ) : Bool := r.seen.has k

/-- Asks for the key of an element once, and takes the element in if the answer is new. -/
def push (r : Roster key) (a : α) : Bool × Roster key :=
  let (k, memory) := key r.memory a
  if r.seen.has k then (false, ⟨r.items, r.seen, memory⟩)
  else (true, ⟨r.items.push a, r.seen.insert k, memory⟩)

def append (r : Roster key) (new : List α) : Roster key :=
  new.foldl (fun r a => (r.push a).2) r

def extend (r : Roster key) (new : List α) : Roster key := r.append new

theorem push_fst (r : Roster key) (a : α) :
    (r.push a).1 = !r.containsKey (key r.memory a).1 := by
  by_cases h : r.seen.has (key r.memory a).1 = true <;> simp [push, containsKey, h]

theorem toList_push (r : Roster key) (a : α) :
    (r.push a).2.toList = if (r.push a).1 then r.toList ++ [a] else r.toList := by
  by_cases h : r.seen.has (key r.memory a).1 = true <;> simp [push, toList, h]

theorem push_seen (r : Roster key) (a : α) :
    (r.push a).2.seen = r.seen.insert (key r.memory a).1 := by
  by_cases h : r.seen.has (key r.memory a).1 = true <;>
    simp [push, h, Keys.insert_of_has]

theorem push_memory (r : Roster key) (a : α) :
    (r.push a).2.memory = (key r.memory a).2 := by
  by_cases h : r.seen.has (key r.memory a).1 = true <;> simp [push, h]

theorem append_append (r : Roster key) (xs ys : List α) :
    r.append (xs ++ ys) = (r.append xs).append ys := by
  simp [append, List.foldl_append]

theorem append_cons (r : Roster key) (a : α) (xs : List α) :
    r.append (a :: xs) = (r.push a).2.append xs := rfl

theorem append_eq_novel (r : Roster key) (xs : List α) :
    (r.append xs).toList = r.toList ++ (novel key r.seen r.memory xs).1 ∧
      (r.append xs).memory = (novel key r.seen r.memory xs).2 := by
  induction xs generalizing r with
  | nil => simp [append, novel]
  | cons a rest ih =>
    obtain ⟨hkept, hmemory⟩ := ih (r.push a).2
    rw [append_cons, hkept, hmemory, toList_push, push_fst, push_seen, push_memory]
    by_cases h : r.seen.has (key r.memory a).1 = true
    · simp [novel, containsKey, h, Keys.insert_of_has h]
    · simp [novel, containsKey, h]

end Roster

end FirstSeen.Unique
