import FirstSeen.Proofs.Unique.Fresh
import Mathlib.Data.List.Forall2

/-!
Rosters against the history of their key calls. Keys do not stand with the elements, and of a key
procedure that has a memory they cannot be asked for again. What a roster has become is therefore
read off an account of the calls: the element and the answer of each, and the memory that the last
one left. A clone goes on from a copy of its original's account. One operation keeps a roster and
its account in step, and so does a run over a whole shelf of rosters and their clones. Where every
element is its own key, nothing but the elements given is needed to tell what a roster holds.
-/
namespace FirstSeen.Unique

variable {σ α κ : Type}

/-- What can be done with a roster. The memory of a key procedure may be shared, with that of a
clone for instance; `stir` changes it from elsewhere. -/
inductive Op (σ α : Type) where
  | push (a : α)
  | append (new : List α)
  | extend (new : List α)
  | read
  | stir (change : σ → σ)

def Op.spread : Op σ α → List (Op σ α)
  | .push a => [.push a]
  | .append new => new.map .push
  | .extend new => new.map .push
  | .read => []
  | .stir change => [.stir change]

inductive Deed (σ α : Type) where
  | use (place : Nat) (op : Op σ α)
  | clone (place : Nat)

namespace Deed

def spread : Deed σ α → List (Deed σ α)
  | use place op => op.spread.map (use place)
  | clone place => [clone place]

variable {X Y : Type} {act : X → Op σ α → X} {act' : Y → Op σ α → Y}

def apply (act : X → Op σ α → X) (shelf : List X) : Deed σ α → List X
  | use place op => shelf.modify place fun x => act x op
  | clone place => shelf ++ shelf[place]?.toList

def run (act : X → Op σ α → X) (shelf : List X) (deeds : List (Deed σ α)) : List X :=
  deeds.foldl (apply act) shelf

theorem forall₂_apply {R : X → Y → Prop} (hstep : ∀ x y op, R x y → R (act x op) (act' y op))
    {xs : List X} {ys : List Y} (h : List.Forall₂ R xs ys) (deed : Deed σ α) :
    List.Forall₂ R (apply act xs deed) (apply act' ys deed) := by
  -- In both cases the induction walks along the two shelves, up to the place.
  cases deed with
  | use place op =>
    induction h generalizing place with
    | nil => cases place <;> exact List.Forall₂.nil
    | cons hxy hrest ih =>
      cases place with
      | zero => exact List.Forall₂.cons (hstep _ _ op hxy) hrest
      | succ place => exact List.Forall₂.cons hxy (ih place)
  | clone place =>
    refine List.rel_append h ?_
    induction h generalizing place with
    | nil => exact List.Forall₂.nil
    | cons hxy hrest ih =>
      cases place with
      | zero => exact List.Forall₂.cons hxy List.Forall₂.nil
      | succ place => exact ih place

theorem forall₂_run {R : X → Y → Prop} (hstep : ∀ x y op, R x y → R (act x op) (act' y op))
    {xs : List X} {ys : List Y} (h : List.Forall₂ R xs ys) (deeds : List (Deed σ α)) :
    List.Forall₂ R (run act xs deeds) (run act' ys deeds) := by
  induction deeds generalizing xs ys with
  | nil => exact h
  | cons deed rest ih => exact ih (forall₂_apply hstep h deed)

theorem run_map_use (shelf : List X) (place : Nat) (ops : List (Op σ α)) :
    run act shelf (ops.map (use place)) = shelf.modify place fun x => ops.foldl act x := by
  induction ops generalizing shelf with
  | nil => exact (List.modify_id _ _).symm
  | cons op rest ih =>
    rw [List.map_cons, run, List.foldl_cons, ← run, ih, apply, List.modify_modify_eq]
    rfl

theorem run_flatMap_spread (hspread : ∀ x op, op.spread.foldl act x = act x op) (shelf : List X)
    (deeds : List (Deed σ α)) : run act shelf (deeds.flatMap spread) = run act shelf deeds := by
  induction deeds generalizing shelf with
  | nil => rfl
  | cons deed rest ih =>
    have hdeed : run act shelf deed.spread = apply act shelf deed := by
      cases deed with
      | use place op => simp only [spread, run_map_use, hspread, apply]
      | clone place => rfl
    rw [List.flatMap_cons, run, List.foldl_append, ← run, ← run, hdeed, ih]
    rfl

end Deed

/-- The key calls made so far, each with its element and its answer, and the memory they left. -/
structure Account (σ α κ : Type) where
  calls : List (α × κ)
  memory : σ

namespace Account

def answers (account : Account σ α κ) : List κ := account.calls.map Prod.snd

def ask (key : KeyProc σ α κ) (account : Account σ α κ) (a : α) : Account σ α κ :=
  ⟨account.calls ++ [(a, (key account.memory a).1)], (key account.memory a).2⟩

def after (key : KeyProc σ α κ) (account : Account σ α κ) : Op σ α → Account σ α κ
  | .push a => account.ask key a
  | .append new => new.foldl (ask key) account
  | .extend new => new.foldl (ask key) account
  | .read => account
  | .stir change => { account with memory := change account.memory }

end Account

variable [DecidableEq κ] {key : KeyProc σ α κ}

def newcomers (calls : List (α × κ)) : List α :=
  (calls.zipIdx.filter fun x => x.1.2 ∉ (calls.take x.2).map Prod.snd).map fun x => x.1.1

theorem newcomers_concat (calls : List (α × κ)) (a : α) (k : κ) :
    newcomers (calls ++ [(a, k)]) =
      if k ∈ calls.map Prod.snd then newcomers calls else newcomers calls ++ [a] := by
  have hold : ∀ x ∈ calls.zipIdx, (calls ++ [(a, k)]).take x.2 = calls.take x.2 := fun x hx =>
    List.take_append_of_le_length (List.snd_lt_of_mem_zipIdx hx).le
  rw [newcomers, List.zipIdx_append, List.filter_append,
    List.filter_congr fun x hx => by rw [hold x hx], List.map_append]
  by_cases h : k ∈ calls.map Prod.snd
  · simp [newcomers, h]
  · simp [newcomers, h]

namespace Roster

def after (r : Roster key) : Op σ α → Roster key
  | .push a => (r.push a).2
  | .append new => r.append new
  | .extend new => r.extend new
  | .read => r
  | .stir change => { r with memory := change r.memory }

theorem foldl_after_spread (r : Roster key) (op : Op σ α) :
    op.spread.foldl after r = r.after op := by
  cases op with
  | push a => rfl
  | append new => exact List.foldl_map
  | extend new => exact List.foldl_map
  | read => rfl
  | stir change => rfl

structure Tallies (r : Roster key) (account : Account σ α κ) : Prop where
  containsKey_iff : ∀ k, r.containsKey k = true ↔ k ∈ account.answers
  size_eq : r.size = account.answers.toFinset.card
  toList_eq : r.toList = newcomers account.calls
  memory_eq : r.memory = account.memory

namespace Tallies

variable {r : Roster key} {account : Account σ α κ}

theorem withKey (memory : σ) : (withKey key memory).Tallies ⟨[], memory⟩ where
  containsKey_iff k := by simp [Roster.withKey, containsKey, Keys.has_empty, Account.answers]
  size_eq := rfl
  toList_eq := rfl
  memory_eq := rfl

theorem push (h : r.Tallies account) (a : α) : (r.push a).2.Tallies (account.ask key a) := by
  have hanswers : (account.ask key a).answers = account.answers ++ [(key r.memory a).1] := by
    simp [Account.answers, Account.ask, h.memory_eq]
  have hlist : (r.push a).2.toList =
      if (key r.memory a).1 ∈ account.answers then r.toList else r.toList ++ [a] := by
    rw [toList_push, push_fst]
    by_cases hk : (key r.memory a).1 ∈ account.answers
    · simp [hk, (h.containsKey_iff _).2 hk]
    · simp [hk, mt (h.containsKey_iff _).1 hk]
  constructor
  case containsKey_iff =>
    intro k
    rw [containsKey, push_seen, Keys.has_insert, hanswers, List.mem_append, List.mem_singleton,
      ← h.containsKey_iff, containsKey, or_comm]
  case size_eq =>
    rw [size_eq_length, hlist, hanswers, List.toFinset_append]
    by_cases hk : (key r.memory a).1 ∈ account.answers
    · simp [hk, ← size_eq_length, h.size_eq]
    · simp [hk, ← size_eq_length, h.size_eq]
  case toList_eq =>
    rw [hlist, h.toList_eq, Account.ask, newcomers_concat, ← h.memory_eq]
    rfl
  case memory_eq =>
    rw [push_memory, h.memory_eq]
    rfl

theorem append (h : r.Tallies account) (new : List α) :
    (r.append new).Tallies (new.foldl (Account.ask key) account) := by
  induction new generalizing r account with
  | nil => exact h
  | cons a rest ih => exact ih (h.push a)

theorem after (h : r.Tallies account) (op : Op σ α) :
    (r.after op).Tallies (account.after key op) := by
  cases op with
  | push a => exact h.push a
  | append new => exact h.append new
  | extend new => exact h.append new
  | read => exact h
  | stir change => exact ⟨h.containsKey_iff, h.size_eq, h.toList_eq, congrArg change h.memory_eq⟩

end Tallies

/-- Whatever is done with a roster and its clones, each is what the account of its own key calls
says, the calls of its original before the cloning among them. A push takes its element in at the
end exactly when the key that it computes is not contained, and otherwise leaves elements and keys
alone; and batches may be split and joined freely. -/
theorem run_withKey_history (key : KeyProc σ α κ) (memory : σ) (deeds : List (Deed σ α)) :
    List.Forall₂ Tallies (Deed.run after [withKey key memory] deeds)
      (Deed.run (Account.after key) [⟨[], memory⟩] deeds) ∧
    (∀ r ∈ Deed.run after [withKey key memory] deeds, ∀ a,
      ((r.push a).1 = true ↔ r.containsKey (key r.memory a).1 = false) ∧
      ((r.push a).1 = true → (r.push a).2.toList = r.toList ++ [a]) ∧
      ((r.push a).1 = false → (r.push a).2.toList = r.toList ∧ (r.push a).2.seen = r.seen)) ∧
    ∀ other : List (Deed σ α), other.flatMap Deed.spread = deeds.flatMap Deed.spread →
      Deed.run after [withKey key memory] other = Deed.run after [withKey key memory] deeds := by
  refine ⟨?_, ?_, ?_⟩
  · exact Deed.forall₂_run (fun r account op h => h.after op)
      (List.Forall₂.cons (Tallies.withKey memory) List.Forall₂.nil) deeds
  · intro r _ a
    refine ⟨?_, fun h => ?_, fun h => ⟨?_, ?_⟩⟩
    · rw [push_fst, Bool.not_eq_true']
    · rw [toList_push, if_pos h]
    · rw [toList_push, h, if_neg Bool.false_ne_true]
    · rw [push_fst, Bool.not_eq_false'] at h
      rw [push_seen, Keys.insert_of_has h]
  · intro other hspread
    rw [← Deed.run_flatMap_spread foldl_after_spread, hspread,
      Deed.run_flatMap_spread foldl_after_spread]

theorem run_withKey_history_clone :
    let key : KeyProc Nat Nat Nat := fun asked a => ((a + asked) % 3, asked + 1)
    let deeds : List (Deed Nat Nat) := [.use 0 (.append [5, 1, 6]), .clone 0, .use 1 (.push 1),
      .use 0 .read, .use 0 (.stir fun _ => 0), .use 0 (.extend [5, 3])]
    let other : List (Deed Nat Nat) := [.use 0 (.push 5), .use 0 (.append []),
      .use 0 (.extend [1, 6]), .clone 0, .use 1 (.append [1]), .use 0 (.stir fun _ => 0),
      .use 0 (.push 5), .use 0 (.push 3)]
    let shelf := Deed.run after [withKey key 0] deeds
    let accounts := Deed.run (Account.after key) [⟨[], 0⟩] deeds
    List.Forall₂ Tallies shelf accounts ∧
      shelf.map toList = [[5, 3], [5, 1]] ∧
      accounts.map Account.answers = [[2, 2, 2, 2, 1], [2, 2, 2, 1]] ∧
      other.flatMap Deed.spread = deeds.flatMap Deed.spread ∧
      Deed.run after [withKey key 0] other = shelf := by
  intro key deeds other shelf accounts
  obtain ⟨htallies, -, hsplit⟩ := run_withKey_history key 0 deeds
  have hspread : other.flatMap Deed.spread = deeds.flatMap Deed.spread := rfl
  exact ⟨htallies, by decide, by decide, hspread, hsplit other hspread⟩

section New

variable {α : Type} [DecidableEq α] {earlier : List α}

def given (earlier : List α) : Op Unit α → List α
  | .push a => earlier ++ [a]
  | .append new => earlier ++ new
  | .extend new => earlier ++ new
  | .read => earlier
  | .stir _ => earlier

structure Collects (r : Roster (KeyProc.same : KeyProc Unit α α)) (given : List α) : Prop where
  containsKey_iff : ∀ a, r.containsKey a = true ↔ a ∈ given
  toList_eq : r.toList = given.eraseDups

theorem Collects.append {r : Roster (KeyProc.same : KeyProc Unit α α)} (h : r.Collects earlier)
    (new : List α) : (r.append new).Collects (earlier ++ new) := by
  have hseen : (r.append new).seen = r.seen.extend (new.map id) := seen_append new
  have hlist : (r.append new).toList = r.toList ++ fresh id r.seen new := toList_append new
  have hold : ∀ a, r.seen.has a = earlier.elem a := fun a =>
    Bool.eq_iff_iff.2 ((h.containsKey_iff a).trans List.elem_iff.symm)
  have hnew : new.filter (fun a => !r.seen.has a) = new.removeAll earlier :=
    List.filter_congr fun a _ => congrArg not (hold a)
  constructor
  case containsKey_iff =>
    intro a
    rw [containsKey, hseen, Keys.has_extend, List.map_id, List.mem_append, ← h.containsKey_iff a,
      or_comm]
    rfl
  case toList_eq =>
    have hfresh : (fresh id r.seen new).map id = ((new.map id).filter _).eraseDups := map_fresh
    rw [List.map_id, List.map_id] at hfresh
    rw [hlist, h.toList_eq, hfresh, hnew, List.eraseDups_append]

theorem Collects.after {r : Roster (KeyProc.same : KeyProc Unit α α)} (h : r.Collects earlier)
    (op : Op Unit α) : (r.after op).Collects (given earlier op) := by
  cases op with
  | push a => exact h.append [a]
  | append new => exact h.append new
  | extend new => exact h.append new
  | read => exact h
  | stir change => exact ⟨h.containsKey_iff, h.toList_eq⟩

/-- Where every element is its own key, a roster and its clones hold what they were given, each
element once and in the order in which the elements first came. -/
theorem run_new_collects (deeds : List (Deed Unit α)) :
    List.Forall₂ Collects (Deed.run after [new] deeds) (Deed.run given [[]] deeds) := by
  have hnew : (new : Roster (KeyProc.same : KeyProc Unit α α)).Collects [] := by
    constructor
    case containsKey_iff =>
      intro a
      have hnone : (new : Roster (KeyProc.same : KeyProc Unit α α)).containsKey a = false :=
        Keys.has_empty a
      rw [hnone]
      exact ⟨fun h => absurd h Bool.false_ne_true, fun h => absurd h List.not_mem_nil⟩
    case toList_eq => rfl
  exact Deed.forall₂_run (fun _ _ op h => h.after op) (.cons hnew .nil) deeds

end New

end Roster

end FirstSeen.Unique
