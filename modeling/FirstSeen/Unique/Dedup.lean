import FirstSeen.Unique.Keys

/-!
One-shot removal of repeated elements. Two elements count as the same when they have the same key,
and of each such class the first one stays. The key may be a procedure with a memory of its own,
which is asked once for every element, in order; its memory is threaded through the run and handed
back.
-/
namespace FirstSeen.Unique

variable {σ α κ : Type}

/-- A key procedure: from its memory and an element to the element's key and the next memory. -/
abbrev KeyProc (σ α κ : Type) := σ → α → κ × σ

def KeyProc.ofFun (f : α → κ) : KeyProc Unit α κ := fun memory a => (f a, memory)

def KeyProc.same : KeyProc Unit α α := KeyProc.ofFun id

def answers (key : KeyProc σ α κ) : σ → List α → List κ × σ
  | memory, [] => ([], memory)
  | memory, a :: rest =>
    let (k, memory) := key memory a
    let (ks, memory) := answers key memory rest
    (k :: ks, memory)

variable [DecidableEq κ]

def novel (key : KeyProc σ α κ) : Keys κ → σ → List α → List α × σ
  | _, memory, [] => ([], memory)
  | seen, memory, a :: rest =>
    let (k, memory) := key memory a
    if seen.has k then novel key seen memory rest
    else
      let (kept, memory) := novel key (seen.insert k) memory rest
      (a :: kept, memory)

/-- A deduplicated copy. An absent sequence and an empty one both have none, and of neither is the
key asked. -/
def copy (key : KeyProc σ α κ) (memory : σ) : Option (List α) → Option (List α) × σ
  | none => (none, memory)
  | some [] => (none, memory)
  | some (a :: rest) =>
    let (kept, memory) := novel key Keys.empty memory (a :: rest)
    (some kept, memory)

structure Sweep (σ α κ : Type) where
  kept : Array α
  seen : Keys κ
  memory : σ

def Sweep.start (memory : σ) : Sweep σ α κ := ⟨#[], Keys.empty, memory⟩

def Sweep.step (key : KeyProc σ α κ) (sweep : Sweep σ α κ) (a : α) : Sweep σ α κ :=
  let (k, memory) := key sweep.memory a
  let (isNew, seen) := sweep.seen.add k
  ⟨if isNew then sweep.kept.push a else sweep.kept, seen, memory⟩

def dedupByKey (key : KeyProc σ α κ) (memory : σ) (store : Array α) : Array α × σ :=
  let sweep := store.foldl (Sweep.step key) (Sweep.start memory)
  (sweep.kept, sweep.memory)

structure InPlace (α : Type) where
  store : Array α
  viewed : Nat

def InPlace.view (result : InPlace α) : List α := result.store.toList.take result.viewed

/-- Deduplicates a store where it is. A store that is present stays present, however empty; the view
that is handed back is all of it. -/
def inPlace (key : KeyProc σ α κ) (memory : σ) : Option (Array α) → Option (InPlace α) × σ
  | none => (none, memory)
  | some store =>
    let (store, memory) := dedupByKey key memory store
    (some ⟨store, store.size⟩, memory)

theorem view_inPlace {key : KeyProc σ α κ} {memory : σ} {store : Option (Array α)}
    {result : InPlace α} (h : (inPlace key memory store).1 = some result) :
    result.view = result.store.toList := by
  cases store with
  | none => simp [inPlace] at h
  | some store =>
    simp only [inPlace, Option.some.injEq] at h
    subst h
    simp [InPlace.view, List.take_of_length_le]

theorem Sweep.toList_foldl (key : KeyProc σ α κ) (sweep : Sweep σ α κ) (xs : List α) :
    (xs.foldl (Sweep.step key) sweep).kept.toList =
        sweep.kept.toList ++ (novel key sweep.seen sweep.memory xs).1 ∧
      (xs.foldl (Sweep.step key) sweep).memory = (novel key sweep.seen sweep.memory xs).2 := by
  induction xs generalizing sweep with
  | nil => simp [novel]
  | cons a rest ih =>
    obtain ⟨hkept, hmemory⟩ := ih (Sweep.step key sweep a)
    rw [List.foldl_cons, hkept, hmemory]
    by_cases h : sweep.seen.has (key sweep.memory a).1 = true
    · simp [Sweep.step, novel, Keys.add, h, Keys.insert_of_has h]
    · simp [Sweep.step, novel, Keys.add, h]

theorem dedupByKey_eq_novel (key : KeyProc σ α κ) (memory : σ) (store : Array α) :
    (dedupByKey key memory store).1.toList = (novel key Keys.empty memory store.toList).1 ∧
      (dedupByKey key memory store).2 = (novel key Keys.empty memory store.toList).2 := by
  have h := Sweep.toList_foldl key (Sweep.start memory) store.toList
  simpa [dedupByKey, Sweep.start, ← Array.foldl_toList] using h

end FirstSeen.Unique
