import FirstSeen.Proofs.Aggregate.Workers

/-!
Workers with programs of their own. The schedule may decide the order of the recorded faults, and of
several faults with one text it may decide which one stays. It decides nothing else: the number of
successes, the texts that are recorded, how many calls are told that they brought something new, and
how the work turned out are the same for every schedule. Of a text that one worker alone reports the
first fault of that worker stays, and such texts stand in the order of that worker's program.
-/
namespace FirstSeen.Aggregate

open FirstSeen.Unique

variable {n : ℕ} {programs : Fin n → List Report} {s t : Schedule n} {sink : Sink}

def OnlyBy (programs : Fin n → List Report) (i : Fin n) (text : String) : Prop :=
  text ∈ Report.texts (programs i) ∧ ∀ j, j ≠ i → text ∉ Report.texts (programs j)

instance (programs : Fin n → List Report) (i : Fin n) (text : String) :
    Decidable (OnlyBy programs i text) :=
  inferInstanceAs (Decidable (_ ∧ _))

/-- What the programs of the workers say about a run of theirs, whatever the schedule was. -/
structure Accounts (programs : Fin n → List Report) (run : List (Trace Bool) × Collector) :
    Prop where
  successes : run.2.successCount.toNat = ∑ i, Report.successes (programs i)
  texts : ∀ text, text ∈ run.2.recordedTexts ↔ ∃ i, text ∈ Report.texts (programs i)
  once : run.2.recordedTexts.Nodup
  told : countNew run.1 = run.2.faultCount
  values : ∀ f ∈ run.2.recorded, ∃ i, f ∈ Report.faults (programs i)
  first : ∀ i text, OnlyBy programs i text →
    run.2.recorded.find? (fun f => f.text = text) =
      (Report.faults (programs i)).find? fun f => f.text = text
  order : ∀ i, run.2.recordedTexts.filter (OnlyBy programs i) =
    (Report.texts (programs i)).eraseDups.filter (OnlyBy programs i)

namespace Schedule

theorem mem_faults_reports (hs : s.Merges programs) {f : Fault} :
    f ∈ Report.faults s.reports ↔ ∃ i, f ∈ Report.faults (programs i) := by
  simp only [Report.mem_faults, mem_reports]
  constructor
  · rintro ⟨r, ⟨i, hr⟩, hf⟩
    exact ⟨i, r, hs i ▸ hr, hf⟩
  · rintro ⟨i, r, hr, hf⟩
    exact ⟨r, ⟨i, (hs i).symm ▸ hr⟩, hf⟩

theorem mem_texts_reports (hs : s.Merges programs) {text : String} :
    text ∈ Report.texts s.reports ↔ ∃ i, text ∈ Report.texts (programs i) := by
  simp only [Report.texts, List.mem_map, mem_faults_reports hs]
  constructor
  · rintro ⟨f, ⟨i, hf⟩, ht⟩
    exact ⟨i, f, hf, ht⟩
  · rintro ⟨i, f, hf, ht⟩
    exact ⟨f, ⟨i, hf⟩, ht⟩

theorem filter_faults_reports {p : Fault → Bool} (s : Schedule n) (i : Fin n)
    (h : ∀ j, j ≠ i → ∀ f ∈ Report.faults (s.worker j), p f = false) :
    (Report.faults s.reports).filter p = (Report.faults (s.worker i)).filter p := by
  induction s with
  | nil => rfl
  | cons entry rest ih =>
    obtain ⟨j, r⟩ := entry
    have hcons : ∀ rs, Report.faults (r :: rs) = Report.faults [r] ++ Report.faults rs := fun rs =>
      Report.faults_append [r] rs
    have hrest : ∀ k, k ≠ i → ∀ f ∈ Report.faults (worker rest k), p f = false := by
      intro k hk f hf
      apply h k hk f
      by_cases hjk : j = k
      · subst hjk
        rw [worker_cons_self, hcons]
        exact List.mem_append_right _ hf
      · rwa [worker_cons_of_ne hjk]
    rw [reports, List.map_cons, hcons, List.filter_append]
    change _ ++ (Report.faults (reports rest)).filter p = _
    rw [ih hrest]
    by_cases hj : j = i
    · subst hj
      rw [worker_cons_self, hcons (worker rest j), List.filter_append]
    · have hnone : (Report.faults [r]).filter p = [] := by
        refine List.filter_eq_nil_iff.2 fun f hf => ?_
        rw [h j hj f (by rw [worker_cons_self, hcons]; exact List.mem_append_left _ hf)]
        exact Bool.false_ne_true
      rw [worker_cons_of_ne hj, hnone, List.nil_append]

end Schedule

namespace Collector

theorem accounts_runSchedule (hsteady : (new sink).Steady)
    (hcount : ∑ i, Report.successes (programs i) < UInt64.size) (hs : s.Merges programs) :
    Accounts programs ((new sink).runSchedule s) := by
  have hstate : ((new sink).runSchedule s).2 = (new sink).taking s.reports :=
    reportAll_state _ _
  have hrecorded : ((new sink).runSchedule s).2.recorded =
      fresh Fault.text Keys.empty (Report.faults s.reports) := by
    rw [hstate, recorded_taking_new]
  have htexts : ((new sink).runSchedule s).2.recordedTexts =
      (fresh Fault.text Keys.empty (Report.faults s.reports)).map Fault.text := by
    rw [recordedTexts, hrecorded]
  have hothers : ∀ i text, OnlyBy programs i text → ∀ j, j ≠ i →
      ∀ f ∈ Report.faults (s.worker j), f.text ≠ text := by
    intro i text hown j hj f hf he
    rw [hs j] at hf
    exact hown.2 j hj (he ▸ List.mem_map_of_mem hf)
  constructor
  case successes =>
    have hsum := Schedule.successes_reports hs
    rw [hstate, successCount_taking_new (hsum ▸ hcount), hsum]
  case texts =>
    intro text
    rw [hstate, recordedTexts_taking_new, List.mem_eraseDups, Schedule.mem_texts_reports hs]
  case once =>
    rw [htexts]
    exact nodup_map_fresh
  case told =>
    have hnew : countNew ((new sink).runSchedule s).1 = ((new sink).unseen s.reports).length :=
      countNew_reportAll hsteady s.reports
    rw [hnew, faultCount_eq, hstate, recorded_taking, List.length_append, List.length_map]
    exact (Nat.zero_add _).symm
  case values =>
    intro f hf
    rw [hrecorded] at hf
    exact (Schedule.mem_faults_reports hs).1 (fresh_sublist.subset hf)
  case first =>
    intro i text hown
    rw [hrecorded, find?_fresh (Keys.has_empty text), ← List.head?_filter, ← List.head?_filter,
      Schedule.filter_faults_reports s i, hs i]
    exact fun j hj f hf => by simpa using hothers i text hown j hj f hf
  case order =>
    intro i
    have hmine := Schedule.filter_faults_reports s i (p := fun f => OnlyBy programs i f.text)
      fun j hj f hf => by simpa using fun hown => hothers i f.text hown j hj f hf rfl
    calc
      _ = (fresh Fault.text Keys.empty ((Report.faults s.reports).filter
            fun f => OnlyBy programs i f.text)).map Fault.text := by rw [htexts, filter_map_fresh]
      _ = (fresh Fault.text Keys.empty ((Report.faults (programs i)).filter
            fun f => OnlyBy programs i f.text)).map Fault.text := by rw [hmine, hs i]
      _ = ((fresh Fault.text Keys.empty (Report.faults (programs i))).map Fault.text).filter
            (OnlyBy programs i) :=
          (filter_map_fresh fun text => decide (OnlyBy programs i text)).symm
      _ = _ := by rw [map_fresh_empty, Report.texts]

/-- Two schedules of the same programs agree in everything that the programs decide. -/
theorem runSchedule_any_schedule (hsteady : (new sink).Steady)
    (hcount : ∑ i, Report.successes (programs i) < UInt64.size) (hs : s.Merges programs)
    (ht : t.Merges programs) :
    let a := (new sink).runSchedule s
    let b := (new sink).runSchedule t
    Accounts programs a ∧ Accounts programs b ∧
      a.2.successCount = b.2.successCount ∧ a.2.faultCount = b.2.faultCount ∧
      (∀ text, text ∈ a.2.recordedTexts ↔ text ∈ b.2.recordedTexts) ∧
      countNew a.1 = countNew b.1 ∧
      a.2.finish.reply.map Outcome.kind = b.2.finish.reply.map Outcome.kind := by
  intro a b
  have ha : Accounts programs a := accounts_runSchedule hsteady hcount hs
  have hb : Accounts programs b := accounts_runSchedule hsteady hcount ht
  have hsuccesses : a.2.successCount = b.2.successCount :=
    UInt64.toNat_inj.1 (ha.successes.trans hb.successes.symm)
  have htexts : ∀ text, text ∈ a.2.recordedTexts ↔ text ∈ b.2.recordedTexts := fun text =>
    (ha.texts text).trans (hb.texts text).symm
  have hlength : a.2.recorded.length = b.2.recorded.length := by
    have hperm := (List.perm_ext_iff_of_nodup ha.once hb.once).2 htexts
    simpa [recordedTexts] using hperm.length_eq
  have hfaults : a.2.faultCount = b.2.faultCount := by
    rw [faultCount_eq, faultCount_eq, hlength]
  have hempty : a.2.recorded = [] ↔ b.2.recorded = [] := by
    rw [← List.length_eq_zero_iff, hlength, List.length_eq_zero_iff]
  refine ⟨ha, hb, hsuccesses, hfaults, htexts, ?_, ?_⟩
  · rw [ha.told, hb.told, hfaults]
  · rw [finish_reply, finish_reply, Reply.map, Reply.map, Outcome.kind_classify,
      Outcome.kind_classify, hsuccesses]
    simp only [hempty]

theorem runSchedule_any_schedule_three_workers :
    let lost : Fault := ⟨"lost", 1, []⟩
    let late : Fault := ⟨"late", 2, []⟩
    let lost' : Fault := ⟨"lost", 3, [⟨"net", 0⟩]⟩
    let full : Fault := ⟨"full", 4, []⟩
    let full' : Fault := ⟨"full", 5, []⟩
    let c := new Sink.silent
    let programs : Fin 3 → List Report :=
      ![[⟨some lost, "", []⟩, ⟨some late, "", []⟩], [⟨none, "", []⟩, ⟨some lost', "", []⟩],
        [⟨some full, "", []⟩, ⟨some full', "", []⟩]]
    let s : Schedule 3 := [(0, ⟨some lost, "", []⟩), (0, ⟨some late, "", []⟩),
      (1, ⟨none, "", []⟩), (1, ⟨some lost', "", []⟩), (2, ⟨some full, "", []⟩),
      (2, ⟨some full', "", []⟩)]
    let t : Schedule 3 := [(2, ⟨some full, "", []⟩), (1, ⟨none, "", []⟩),
      (1, ⟨some lost', "", []⟩), (2, ⟨some full', "", []⟩), (0, ⟨some lost, "", []⟩),
      (0, ⟨some late, "", []⟩)]
    s.Merges programs ∧ t.Merges programs ∧
      (c.runSchedule s).2.recorded = [lost, late, full] ∧
      (c.runSchedule t).2.recorded = [full, lost', late] ∧
      OnlyBy programs 0 "late" ∧ OnlyBy programs 2 "full" ∧
      (c.runSchedule s).2.faultCount = (c.runSchedule t).2.faultCount ∧
      countNew (c.runSchedule s).1 = countNew (c.runSchedule t).1 ∧
      (c.runSchedule s).2.finish.reply.map Outcome.kind = .answer .partially ∧
      (c.runSchedule t).2.finish.reply.map Outcome.kind = .answer .partially := by
  intro lost late lost' full full' c programs s t
  have hs : s.Merges programs := by decide
  have ht : t.Merges programs := by decide
  obtain ⟨-, -, -, hfaults, -, hnew, hkind⟩ :=
    runSchedule_any_schedule (fun _ _ => rfl : c.Steady) (by decide) hs ht
  exact ⟨hs, ht, by decide, by decide, by decide, by decide, hfaults, hnew,
    hkind.trans (by decide), hkind.symm.trans (by decide)⟩

end Collector

end FirstSeen.Aggregate
