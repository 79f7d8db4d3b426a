import FirstSeen.Proofs.Unique.Fresh

/-!
Deduplication in stages. A store may be deduplicated by a finer key before it is by a coarser one,
and in parts before it is as a whole; either way the result is that of a single sweep. Both come
down to two facts about what is kept past the keys seen before. A stage that has seen fewer keys
keeps more, and the surplus is told by its keys. A stage that drops an element has kept one before
it that has the same key, and so the same coarser key.
-/
namespace FirstSeen.Unique

variable {α κ μ : Type} [DecidableEq κ] [DecidableEq μ] {key : α → κ} {xs ys : List α}

theorem fresh_eq_filter {seen earlier : Keys κ}
    (h : ∀ k, earlier.has k = true → seen.has k = true) :
    fresh key seen xs = (fresh key earlier xs).filter fun a => !seen.has (key a) := by
  have hunseen : ∀ a ∈ fresh key seen xs, (!seen.has (key a)) = true := fun a ha => by
    simp [(mem_map_fresh.1 (List.mem_map_of_mem ha)).2]
  have hsame : ∀ a ∈ xs.filter fun a => !seen.has (key a),
      seen.has (key a) = earlier.has (key a) := by
    intro a ha
    have hs : seen.has (key a) = false := by simpa using (List.mem_filter.1 ha).2
    cases he : earlier.has (key a) with
    | false => exact hs
    | true => exact h _ he
  calc fresh key seen xs
      = (fresh key seen xs).filter fun a => !seen.has (key a) :=
        (List.filter_eq_self.2 hunseen).symm
    _ = fresh key seen (xs.filter fun a => !seen.has (key a)) := filter_fresh fun k => !seen.has k
    _ = fresh key earlier (xs.filter fun a => !seen.has (key a)) := fresh_congr hsame
    _ = (fresh key earlier xs).filter fun a => !seen.has (key a) :=
        (filter_fresh fun k => !seen.has k).symm

theorem fresh_comp_fresh (g : κ → μ) {fine : Keys κ} {coarse : Keys μ}
    (h : ∀ k, fine.has k = true → coarse.has (g k) = true) :
    fresh (g ∘ key) coarse (fresh key fine xs) = fresh (g ∘ key) coarse xs := by
  induction xs generalizing fine coarse with
  | nil => rfl
  | cons a rest ih =>
    by_cases hfine : fine.has (key a) = true
    · have hcoarse : coarse.has ((g ∘ key) a) = true := h _ hfine
      rw [fresh_cons_of_has hfine, ih h, fresh_cons_of_has hcoarse]
    · have hinsert : ∀ k, (fine.insert (key a)).has k = true →
          (coarse.insert (g (key a))).has (g k) = true := by
        intro k hk
        rcases Keys.has_insert.1 hk with rfl | hk
        · exact Keys.has_insert.2 (Or.inl rfl)
        · exact Keys.has_insert.2 (Or.inr (h k hk))
      have hrest := ih hinsert
      rw [fresh_cons, if_neg hfine, fresh_cons, fresh_cons]
      by_cases hcoarse : coarse.has (g (key a)) = true
      · -- The coarser key of `a` is no news, so to have seen the finer one changes nothing.
        rw [Keys.insert_of_has hcoarse] at hrest
        simp [hcoarse, hrest]
      · simp [hcoarse, hrest]

theorem fresh_empty_fresh :
    fresh key Keys.empty (fresh key Keys.empty xs) = fresh key Keys.empty xs :=
  fresh_comp_fresh id fun _ => id

theorem fresh_empty_append : fresh key Keys.empty (xs ++ ys) =
    fresh key Keys.empty xs ++
      (fresh key Keys.empty ys).filter fun a => decide (key a ∉ xs.map key) := by
  have hnone : ∀ k, (Keys.empty : Keys κ).has k = true →
      (Keys.empty.extend (xs.map key)).has k = true := by simp [Keys.has_empty]
  rw [fresh_append, fresh_eq_filter hnone]
  simp only [Keys.has_extend_eq, Keys.has_empty, Bool.or_false, decide_not]

theorem fresh_empty_parts :
    fresh key Keys.empty (fresh key Keys.empty xs ++ fresh key Keys.empty ys) =
      fresh key Keys.empty (xs ++ ys) := by
  have hkeys : ∀ k, k ∈ (fresh key Keys.empty xs).map key ↔ k ∈ xs.map key := fun k => by
    simp [mem_map_fresh, Keys.has_empty]
  simp only [fresh_empty_append, fresh_empty_fresh, hkeys]

def distinctBy (key : α → κ) (store : Array α) : Array α :=
  (dedupByKey (KeyProc.ofFun key) () store).1

theorem toList_distinctBy (key : α → κ) (store : Array α) :
    (distinctBy key store).toList = fresh key Keys.empty store.toList :=
  (dedupByKey_eq_novel (KeyProc.ofFun key) () store).1

/-- A stage with a finer key takes nothing from one with a coarser key; that a second sweep changes
nothing is the case of two equal keys. A store in two parts can be swept part by part and then as a
whole, and of the second part that much stays whose keys do not come up in the first. -/
theorem distinctBy_in_stages (key : α → κ) (g : κ → μ) (xs ys : Array α) :
    distinctBy (g ∘ key) (distinctBy key xs) = distinctBy (g ∘ key) xs ∧
      distinctBy key (xs ++ ys) = distinctBy key (distinctBy key xs ++ distinctBy key ys) ∧
      distinctBy key (xs ++ ys) =
        distinctBy key xs ++ (distinctBy key ys).filter fun a => decide (key a ∉ xs.map key) := by
  refine ⟨?_, ?_, ?_⟩
  · apply Array.toList_inj.1
    simp only [toList_distinctBy]
    exact fresh_comp_fresh g fun k hk => absurd hk (by simp [Keys.has_empty])
  · apply Array.toList_inj.1
    simp only [toList_distinctBy, Array.toList_append]
    exact fresh_empty_parts.symm
  · apply Array.toList_inj.1
    simp only [toList_distinctBy, Array.toList_append, Array.toList_filter, fresh_empty_append]
    simp

end FirstSeen.Unique
