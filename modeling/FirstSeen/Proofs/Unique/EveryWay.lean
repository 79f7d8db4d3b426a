import FirstSeen.Proofs.Unique.CallHistory

/-!
There are four ways to rid a sequence of repeated elements: a copy, a sweep over a store, a store
that is handed back as a view of what is left, and a roster that takes the elements in. They are the
same algorithm. Each asks the key once for every element, in order, and keeps the elements whose
answer no element before had. The calls are seen by giving each way a key procedure that keeps an
account of them: what it remembers in the end is what it was asked and what it answered.
-/
namespace FirstSeen.Unique

variable {σ α κ : Type}

/-- The key procedure under observation, with the account of its calls as its memory. -/
def KeyProc.observed (key : KeyProc σ α κ) : KeyProc (Account σ α κ) α κ :=
  fun account a => ((key account.memory a).1, account.ask key a)

theorem length_answers (key : KeyProc σ α κ) (memory : σ) (xs : List α) :
    (answers key memory xs).1.length = xs.length := by
  induction xs generalizing memory with
  | nil => rfl
  | cons a rest ih => simp [answers, ih]

theorem foldl_ask (key : KeyProc σ α κ) (account : Account σ α κ) (xs : List α) :
    xs.foldl (Account.ask key) account =
      ⟨account.calls ++ xs.zip (answers key account.memory xs).1,
        (answers key account.memory xs).2⟩ := by
  induction xs generalizing account with
  | nil => simp [answers]
  | cons a rest ih => simp [ih, Account.ask, answers]

theorem answers_observed (key : KeyProc σ α κ) (account : Account σ α κ) (xs : List α) :
    answers key.observed account xs =
      ((answers key account.memory xs).1, xs.foldl (Account.ask key) account) := by
  induction xs generalizing account with
  | nil => rfl
  | cons a rest ih => simp [answers, KeyProc.observed, ih, Account.ask]

variable [DecidableEq κ]

structure EveryWay (key : KeyProc σ α κ) (memory : σ) (xs kept : List α) (last : σ) : Prop where
  copied : copy key memory (some xs) = (if xs = [] then none else some kept, last)
  swept : dedupByKey key memory xs.toArray = (kept.toArray, last)
  viewed : ∃ result, inPlace key memory (some xs.toArray) = (some result, last) ∧
    result.store = kept.toArray ∧ result.view = kept
  appended : ((Roster.withKey key memory).append xs).toList = kept ∧
    ((Roster.withKey key memory).append xs).memory = last

theorem novel_empty (key : KeyProc σ α κ) (memory : σ) (xs : List α) :
    novel key Keys.empty memory xs =
      (newcomers (xs.zip (answers key memory xs).1), (answers key memory xs).2) := by
  have hroster := Roster.append_eq_novel (Roster.withKey key memory) xs
  have hstart : (Roster.withKey key memory).Tallies ⟨[], memory⟩ := Roster.Tallies.withKey memory
  have htallies := hstart.append xs
  rw [foldl_ask] at htallies
  exact Prod.ext (hroster.1.symm.trans htallies.toList_eq) (hroster.2.symm.trans htallies.memory_eq)

theorem EveryWay.of_novel {key : KeyProc σ α κ} {memory last : σ} {xs kept : List α}
    (h : novel key Keys.empty memory xs = (kept, last)) : EveryWay key memory xs kept last := by
  have hsweep : dedupByKey key memory xs.toArray = (kept.toArray, last) := by
    have heq := dedupByKey_eq_novel key memory xs.toArray
    rw [h] at heq
    exact Prod.ext (Array.toList_inj.1 heq.1) heq.2
  have hplace : inPlace key memory (some xs.toArray) =
      (some ⟨kept.toArray, kept.length⟩, last) := by
    simp [inPlace, hsweep]
  constructor
  case copied =>
    cases xs with
    | nil => exact congrArg (Prod.mk none) (congrArg Prod.snd h)
    | cons a rest => simp [copy, h]
  case swept => exact hsweep
  case viewed => exact ⟨_, hplace, rfl, view_inPlace (congrArg Prod.fst hplace)⟩
  case appended =>
    have hroster := Roster.append_eq_novel (Roster.withKey key memory) xs
    exact ⟨hroster.1.trans (congrArg Prod.fst h), hroster.2.trans (congrArg Prod.snd h)⟩

/-- With the answers that the key gives to the elements in turn, every way keeps the elements whose
answer is none of those before it. It has then made one call for each element, in order, as the same
key under observation tells; the sequence that is copied is a value and stays what it is. An absent
sequence has no copy and no view, and nothing is asked. -/
theorem everyWay_newcomers (key : KeyProc σ α κ) (memory : σ) (xs : List α) :
    let ks := (answers key memory xs).1
    let last := (answers key memory xs).2
    ks.length = xs.length ∧
      EveryWay key memory xs (newcomers (xs.zip ks)) last ∧
      EveryWay key.observed ⟨[], memory⟩ xs (newcomers (xs.zip ks)) ⟨xs.zip ks, last⟩ ∧
      copy key memory none = (none, memory) ∧ inPlace key memory none = (none, memory) := by
  refine ⟨length_answers key memory xs, .of_novel (novel_empty key memory xs), .of_novel ?_,
    rfl, rfl⟩
  rw [novel_empty, answers_observed, foldl_ask]
  rfl

example : (dedupByKey (fun asked a => (a + asked, asked + 1)) 0 #[2, 1, 0, 0]).1 = #[2, 0] := by
  decide

end FirstSeen.Unique
