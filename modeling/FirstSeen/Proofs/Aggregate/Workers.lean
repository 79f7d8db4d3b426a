import FirstSeen.Proofs.Aggregate.Calls
import Mathlib.Algebra.BigOperators.Fin

/-!
Schedules taken apart by workers. Every entry of a schedule belongs to one worker, so a count over
the schedule is the sum of the counts over the workers. When all workers have one program, they may
go through it one after the other, or in any other order. Whoever comes to a report later finds that
another one has been there: at any time there is a leading worker whose part of the program holds
everything that any worker has done, and the whole schedule so far records what that part records
alone.
-/
namespace FirstSeen.Aggregate

open FirstSeen.Unique

namespace Schedule

variable {n : ℕ} {s : Schedule n} {program : List Report}

instance (s : Schedule n) (programs : Fin n → List Report) : Decidable (s.Merges programs) :=
  inferInstanceAs (Decidable (∀ i, s.worker i = programs i))

theorem worker_append (s t : Schedule n) (i : Fin n) :
    (s ++ t : Schedule n).worker i = s.worker i ++ t.worker i := by
  unfold worker
  rw [List.filter_append, List.map_append]

theorem worker_cons_self (i : Fin n) (r : Report) (s : Schedule n) :
    worker ((i, r) :: s) i = r :: s.worker i := by
  simp [worker]

theorem worker_cons_of_ne {i j : Fin n} (h : j ≠ i) (r : Report) (s : Schedule n) :
    worker ((j, r) :: s) i = s.worker i := by
  simp [worker, h]

theorem worker_flatMap_of_nodup {is : List (Fin n)} (h : is.Nodup) (i : Fin n) :
    worker (is.flatMap fun j => program.map fun r => (j, r)) i = if i ∈ is then program else [] := by
  have hblock : ∀ j, worker (program.map fun r => (j, r)) i = if j = i then program else [] := by
    intro j
    by_cases hj : j = i <;> simp [worker, hj, List.filter_map, Function.comp_def]
  induction is with
  | nil => rfl
  | cons j rest ih =>
    obtain ⟨hj, hrest⟩ := List.nodup_cons.1 h
    rw [List.flatMap_cons, worker_append, ih hrest, hblock]
    by_cases hi : j = i
    · subst hi
      simp [hj]
    · simp [hi, Ne.symm hi]

theorem merges_inTurn (n : ℕ) (program : List Report) :
    (inTurn n program).Merges fun _ => program := by
  intro i
  rw [inTurn, worker_flatMap_of_nodup (List.nodup_finRange n), if_pos (List.mem_finRange i)]

theorem mem_reports {r : Report} : r ∈ s.reports ↔ ∃ i, r ∈ s.worker i := by
  simp [reports, worker]

theorem countP_reports (p : Report → Bool) (s : Schedule n) :
    s.reports.countP p = ∑ i, (s.worker i).countP p := by
  induction s with
  | nil => simp [reports, worker]
  | cons entry rest ih =>
    obtain ⟨j, r⟩ := entry
    have hstep : ∀ i, (worker ((j, r) :: rest) i).countP p =
        (worker rest i).countP p + if i = j then if p r then 1 else 0 else 0 := by
      intro i
      by_cases h : j = i
      · subst h
        rw [worker_cons_self, List.countP_cons, if_pos rfl]
      · rw [worker_cons_of_ne h, if_neg (Ne.symm h), Nat.add_zero]
    rw [reports, List.map_cons, List.countP_cons, Finset.sum_congr rfl fun i _ => hstep i,
      Finset.sum_add_distrib, Finset.sum_ite_eq', if_pos (Finset.mem_univ j), ← ih]
    rfl

theorem successes_reports {programs : Fin n → List Report} (hs : s.Merges programs) :
    Report.successes s.reports = ∑ i, Report.successes (programs i) := by
  rw [Report.successes, countP_reports]
  exact Finset.sum_congr rfl fun i _ => by rw [hs i, Report.successes]

theorem prefix_or_eq_of_concat {done lead : List Report} {r : Report} (hdone : done <+: lead)
    (hlead : lead <+: program) (hnext : done ++ [r] <+: program) :
    done ++ [r] <+: lead ∨ done = lead := by
  obtain h | h := List.prefix_or_prefix_of_prefix hnext hlead
  · exact Or.inl h
  · obtain h | h := List.prefix_concat_iff.1 h
    · exact Or.inl (h ▸ List.prefix_rfl)
    · exact Or.inr (hdone.eq_of_length (le_antisymm hdone.length_le h.length_le))

/-- The leading worker's part of a common program records what the whole schedule does. -/
theorem exists_lead (h : ∀ i, s.worker i <+: program) :
    ∃ lead, lead <+: program ∧ (∀ i, s.worker i <+: lead) ∧
      Alike Emission.text (Report.emissions s.reports) (Report.emissions lead) := by
  -- One report more at the end of the schedule: it repeats the leading part or extends it.
  induction s using List.reverseRecOn with
  | nil => exact ⟨[], List.nil_prefix, fun _ => List.prefix_rfl, Alike.refl _⟩
  | append_singleton s entry ih =>
    obtain ⟨j, r⟩ := entry
    have hnext : worker s j ++ [r] <+: program := by
      have hj := h j
      rwa [worker_append, worker_cons_self] at hj
    have hworker : ∀ i, i ≠ j → worker (s ++ [(j, r)]) i = worker s i := by
      intro i hi
      rw [worker_append, worker_cons_of_ne (Ne.symm hi)]
      exact List.append_nil _
    have hself : worker (s ++ [(j, r)]) j = worker s j ++ [r] := by
      rw [worker_append, worker_cons_self]
      rfl
    obtain ⟨lead, hlead, hdone, halike⟩ := ih fun i =>
      ((List.prefix_append _ _).trans (worker_append s [(j, r)] i ▸ h i))
    have hreports : Report.emissions (reports (s ++ [(j, r)])) =
        Report.emissions (reports s) ++ Report.emissions [r] := by
      rw [reports, List.map_append, ← Report.emissions_append]
      rfl
    rw [hreports]
    obtain hrep | heq := prefix_or_eq_of_concat (hdone j) hlead hnext
    · refine ⟨lead, hlead, fun i => ?_, (halike.append _).trans (alike_append_of_mem ?_)⟩
      · by_cases hi : i = j
        · rw [hi, hself]
          exact hrep
        · rw [hworker i hi]
          exact hdone i
      · have hmem : r ∈ lead := hrep.subset (List.mem_append_right _ List.mem_cons_self)
        intro e he
        obtain ⟨r', hr', he'⟩ := List.mem_filterMap.1 he
        rw [List.mem_singleton.1 hr'] at he'
        exact List.mem_map_of_mem (List.mem_filterMap.2 ⟨r, hmem, he'⟩)
    · refine ⟨lead ++ [r], heq ▸ hnext, fun i => ?_, ?_⟩
      · by_cases hi : i = j
        · rw [hi, hself, heq]
        · rw [hworker i hi]
          exact (hdone i).trans (List.prefix_append _ _)
      · rw [Report.emissions_append]
        exact halike.append _

end Schedule

end FirstSeen.Aggregate
