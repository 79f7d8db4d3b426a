import FirstSeen.Unique.Roster
import Mathlib.Data.Finset.Card
import Mathlib.Data.Finset.SDiff

/-!
Keys that depend on the element alone. What is kept of a sequence is then a plain function of the
sequence and of the keys seen before it, and this module describes that function: by the keys that
it keeps, by the first element with a given key, under selection by key, and for a sequence that is
continued. Two sequences are alike when the same is kept of both, whatever was seen before; an
element whose key came up earlier in the sequence can be dropped at its end.
-/
namespace FirstSeen.Unique

variable {α κ : Type} [DecidableEq κ] {key : α → κ} {seen : Keys κ} {xs ys zs : List α}

/-- The elements whose key is neither in `seen` nor the key of an earlier element. -/
def fresh (key : α → κ) (seen : Keys κ) (xs : List α) : List α :=
  (novel (KeyProc.ofFun key) seen () xs).1

theorem fresh_nil : fresh key seen [] = [] := rfl

theorem fresh_cons (a : α) : fresh key seen (a :: xs) =
    if seen.has (key a) then fresh key seen xs else a :: fresh key (seen.insert (key a)) xs := by
  by_cases h : seen.has (key a) = true
  · simp [fresh, novel, KeyProc.ofFun, h]
  · simp [fresh, novel, KeyProc.ofFun, h]

theorem fresh_cons_of_has {a : α} (h : seen.has (key a) = true) :
    fresh key seen (a :: xs) = fresh key seen xs := by
  rw [fresh_cons, if_pos h]

theorem fresh_cons_of_not_has {a : α} (h : seen.has (key a) = false) :
    fresh key seen (a :: xs) = a :: fresh key (seen.insert (key a)) xs := by
  rw [fresh_cons, h, if_neg Bool.false_ne_true]

theorem fresh_sublist : (fresh key seen xs).Sublist xs := by
  induction xs generalizing seen with
  | nil => exact List.Sublist.refl _
  | cons a rest ih =>
    rw [fresh_cons]
    split
    · exact ih.cons a
    · exact ih.cons_cons a

theorem mem_map_fresh {k : κ} :
    k ∈ (fresh key seen xs).map key ↔ k ∈ xs.map key ∧ seen.has k = false := by
  induction xs generalizing seen with
  | nil => simp [fresh_nil]
  | cons a rest ih =>
    by_cases h : seen.has (key a) = true
    · rw [fresh_cons_of_has h, ih, List.map_cons, List.mem_cons]
      constructor
      · exact fun hk => ⟨Or.inr hk.1, hk.2⟩
      · rintro ⟨rfl | hk, hs⟩
        · rw [h] at hs
          exact absurd hs (by decide)
        · exact ⟨hk, hs⟩
    · have h : seen.has (key a) = false := by simpa using h
      have hinsert : (seen.insert (key a)).has k = false ↔ k ≠ key a ∧ seen.has k = false := by
        simp [Keys.has_insert_eq]
      rw [fresh_cons_of_not_has h, List.map_cons, List.map_cons, List.mem_cons, List.mem_cons, ih,
        hinsert]
      constructor
      · rintro (rfl | ⟨hk, -, hs⟩)
        · exact ⟨Or.inl rfl, h⟩
        · exact ⟨Or.inr hk, hs⟩
      · rintro ⟨hk, hs⟩
        by_cases he : k = key a
        · exact Or.inl he
        · exact Or.inr ⟨hk.resolve_left he, he, hs⟩

theorem nodup_map_fresh : ((fresh key seen xs).map key).Nodup := by
  induction xs generalizing seen with
  | nil => exact List.nodup_nil
  | cons a rest ih =>
    rw [fresh_cons]
    split
    · exact ih
    · rw [List.map_cons, List.nodup_cons]
      refine ⟨fun h => ?_, ih⟩
      have hs := (mem_map_fresh.1 h).2
      rw [Keys.has_insert.2 (Or.inl rfl)] at hs
      exact absurd hs (by decide)

theorem fresh_congr {other : Keys κ} (h : ∀ a ∈ xs, seen.has (key a) = other.has (key a)) :
    fresh key seen xs = fresh key other xs := by
  induction xs generalizing seen other with
  | nil => rfl
  | cons a rest ih =>
    have hrest : ∀ b ∈ rest, seen.has (key b) = other.has (key b) :=
      fun b hb => h b (List.mem_cons_of_mem a hb)
    have hinsert : ∀ b ∈ rest,
        (seen.insert (key a)).has (key b) = (other.insert (key a)).has (key b) := by
      intro b hb
      rw [Keys.has_insert_eq, Keys.has_insert_eq, hrest b hb]
    rw [fresh_cons, fresh_cons, h a List.mem_cons_self, ih hrest, ih hinsert]

theorem fresh_append :
    fresh key seen (xs ++ ys) = fresh key seen xs ++ fresh key (seen.extend (xs.map key)) ys := by
  induction xs generalizing seen with
  | nil => rfl
  | cons a rest ih =>
    rw [List.cons_append, fresh_cons, fresh_cons, List.map_cons]
    split
    · rename_i h
      rw [ih, Keys.extend, Keys.extend, List.foldl_cons, Keys.insert_of_has h]
    · rw [ih, List.cons_append]
      rfl

theorem fresh_eq_nil (h : ∀ a ∈ xs, seen.has (key a) = true) : fresh key seen xs = [] := by
  induction xs with
  | nil => rfl
  | cons a rest ih =>
    rw [fresh_cons_of_has (h a List.mem_cons_self)]
    exact ih fun b hb => h b (List.mem_cons_of_mem a hb)

theorem fresh_map {β : Type} (f : β → α) (bs : List β) :
    fresh key seen (bs.map f) = (fresh (fun b => key (f b)) seen bs).map f := by
  induction bs generalizing seen with
  | nil => rfl
  | cons b rest ih =>
    rw [List.map_cons, fresh_cons, fresh_cons]
    split
    · exact ih
    · rw [List.map_cons, ih]

theorem filter_fresh (p : κ → Bool) : (fresh key seen xs).filter (fun a => p (key a)) =
    fresh key seen (xs.filter fun a => p (key a)) := by
  induction xs generalizing seen with
  | nil => rfl
  | cons a rest ih =>
    by_cases hp : p (key a) = true
    · rw [List.filter_cons_of_pos (p := fun b => p (key b)) hp, fresh_cons, fresh_cons]
      split
      · exact ih
      · rw [List.filter_cons_of_pos (p := fun b => p (key b)) hp, ih]
    · rw [List.filter_cons_of_neg (p := fun b => p (key b)) hp, fresh_cons]
      split
      · exact ih
      · rw [List.filter_cons_of_neg (p := fun b => p (key b)) hp, ih]
        -- The inserted key is none of those that are selected.
        refine fresh_congr fun b hb => ?_
        have hne : key b ≠ key a := fun he => hp (he ▸ (List.mem_filter.1 hb).2)
        simp [Keys.has_insert_eq, hne]

theorem filter_map_fresh (p : κ → Bool) : ((fresh key seen xs).map key).filter p =
    (fresh key seen (xs.filter fun a => p (key a))).map key := by
  rw [List.filter_map, ← filter_fresh]
  rfl

theorem find?_fresh {k : κ} (h : seen.has k = false) :
    (fresh key seen xs).find? (fun a => key a = k) = xs.find? fun a => key a = k := by
  induction xs generalizing seen with
  | nil => rfl
  | cons a rest ih =>
    by_cases hk : key a = k
    · subst hk
      rw [fresh_cons_of_not_has h]
      simp
    · have hinsert : (seen.insert (key a)).has k = false := by
        simp [Keys.has_insert_eq, Ne.symm hk, h]
      rw [fresh_cons]
      split
      · rw [ih h, List.find?_cons_of_neg (by simpa using hk)]
      · rw [List.find?_cons_of_neg (by simpa using hk), ih hinsert,
          List.find?_cons_of_neg (by simpa using hk)]

theorem map_fresh :
    (fresh key seen xs).map key = ((xs.map key).filter fun k => !seen.has k).eraseDups := by
  induction xs generalizing seen with
  | nil => rfl
  | cons a rest ih =>
    by_cases h : seen.has (key a) = true
    · rw [fresh_cons_of_has h, ih, List.map_cons, List.filter_cons_of_neg (by simp [h])]
    · have h : seen.has (key a) = false := by simpa using h
      rw [fresh_cons_of_not_has h, List.map_cons, List.map_cons, ih,
        List.filter_cons_of_pos (by simp [h]), List.eraseDups_cons, List.filter_filter]
      congr 2
      refine List.filter_congr fun k _ => ?_
      rw [Keys.has_insert_eq, Bool.not_or]
      rfl

theorem map_fresh_empty : (fresh key Keys.empty xs).map key = (xs.map key).eraseDups := by
  rw [map_fresh]
  congr 1
  exact List.filter_eq_self.2 fun k _ => by rw [Keys.has_empty, Bool.not_false]

theorem copy_ofFun (key : α → κ) (xs : List α) :
    (copy (KeyProc.ofFun key) () (some xs)).1 =
      if xs = [] then none else some (fresh key Keys.empty xs) := by
  cases xs with
  | nil => rfl
  | cons a rest => rfl

theorem fresh_empty_eq_nil_iff :
    fresh key Keys.empty xs = [] ↔ xs = [] := by
  cases xs with
  | nil => exact ⟨fun _ => rfl, fun _ => rfl⟩
  | cons a rest =>
    rw [fresh_cons_of_not_has (Keys.has_empty _)]
    exact ⟨fun h => absurd h (List.cons_ne_nil _ _), fun h => absurd h (List.cons_ne_nil _ _)⟩

theorem head?_fresh_empty : (fresh key Keys.empty xs).head? = xs.head? := by
  cases xs with
  | nil => rfl
  | cons a rest => rw [fresh_cons_of_not_has (Keys.has_empty _), List.head?_cons, List.head?_cons]

theorem length_fresh {old : List κ} (h : ∀ k, seen.has k = true ↔ k ∈ old) :
    (fresh key seen xs).length = ((xs.map key).toFinset \ old.toFinset).card := by
  have hnodup : ((fresh key seen xs).map key).Nodup := nodup_map_fresh
  rw [← List.length_map key, ← List.toFinset_card_of_nodup hnodup]
  congr 1
  ext k
  rw [Finset.mem_sdiff, List.mem_toFinset, List.mem_toFinset, List.mem_toFinset, mem_map_fresh,
    ← h k, Bool.not_eq_true]

def Alike (key : α → κ) (xs ys : List α) : Prop := ∀ seen, fresh key seen xs = fresh key seen ys

theorem Alike.refl (xs : List α) : Alike key xs xs := fun _ => rfl

theorem Alike.trans (h : Alike key xs ys) (h' : Alike key ys zs) : Alike key xs zs :=
  fun seen => (h seen).trans (h' seen)

theorem Alike.has_extend (h : Alike key xs ys) (seen : Keys κ) (k : κ) :
    (seen.extend (xs.map key)).has k = (seen.extend (ys.map key)).has k := by
  have hmem : k ∈ xs.map key ∧ seen.has k = false ↔ k ∈ ys.map key ∧ seen.has k = false := by
    rw [← mem_map_fresh, h seen, mem_map_fresh]
  rw [Keys.has_extend_eq, Keys.has_extend_eq]
  by_cases hs : seen.has k = true
  · simp [hs]
  · simpa [hs] using hmem

theorem Alike.append (h : Alike key xs ys) (zs : List α) : Alike key (xs ++ zs) (ys ++ zs) := by
  intro seen
  rw [fresh_append, fresh_append, h seen, fresh_congr fun a _ => h.has_extend seen (key a)]

theorem alike_append_of_mem (h : ∀ a ∈ zs, key a ∈ xs.map key) : Alike key (xs ++ zs) xs := by
  intro seen
  rw [fresh_append, fresh_eq_nil fun a ha => Keys.has_extend.2 (Or.inl (h a ha)), List.append_nil]

namespace Roster

variable {r : Roster (KeyProc.ofFun key)}

theorem seen_append (xs : List α) : (r.append xs).seen = r.seen.extend (xs.map key) := by
  induction xs generalizing r with
  | nil => rfl
  | cons a rest ih =>
    rw [append_cons, ih, push_seen]
    rfl

theorem toList_append (xs : List α) : (r.append xs).toList = r.toList ++ fresh key r.seen xs :=
  (append_eq_novel r xs).1

end Roster

end FirstSeen.Unique
