import FirstSeen.Proofs.Aggregate.Workers

/-!
Workers with one and the same program. However their reports are merged, and from whatever state the
collector starts, the faults that it records and what its sink receives are those of a single
worker: of equal texts the first one of the program stays, and the order is that of the program.
Each text that is new to the collector is told to one caller only, and every success counts once for
each worker.
-/
namespace FirstSeen.Aggregate

namespace Collector

variable {n : ℕ} {c : Collector} {program : List Report} {s : Schedule n}

theorem unseen_reports_of_merges (hn : 0 < n) (hs : s.Merges fun _ => program) (c : Collector) :
    c.unseen s.reports = c.unseen program := by
  have hprefix : ∀ i, s.worker i <+: program := fun i => (hs i).symm ▸ List.prefix_rfl
  obtain ⟨lead, hlead, hdone, halike⟩ := Schedule.exists_lead hprefix
  have hall : program <+: lead := by
    have hfirst := hdone ⟨0, hn⟩
    rwa [hs ⟨0, hn⟩] at hfirst
  have heq : lead = program := hlead.eq_of_length (le_antisymm hlead.length_le hall.length_le)
  rw [heq] at halike
  exact halike _

/-- Any number of workers with one program, from any state that a run can lead to, in any order. -/
theorem runSchedule_same_program (hn : 0 < n) (hc : c.Reachable) (hsteady : c.Steady)
    (hs : s.Merges fun _ => program)
    (hcount : c.successCount.toNat + n * Report.successes program < UInt64.size) :
    let together := c.runSchedule s
    let alone := c.reportAll program
    together.2.recorded = alone.2.recorded ∧
      emissions together.1 = emissions alone.1 ∧
      countNew together.1 =
        ((Report.texts program).toFinset \ c.recordedTexts.toFinset).card ∧
      together.2.successCount.toNat =
        c.successCount.toNat + n * Report.successes program := by
  intro together alone
  have hunseen := unseen_reports_of_merges hn hs c
  have hsuccesses : Report.successes s.reports = n * Report.successes program := by
    rw [Schedule.successes_reports hs, Finset.sum_const, Finset.card_univ, Fintype.card_fin,
      smul_eq_mul]
  have htogether : together.2 = c.taking s.reports := reportAll_state c s.reports
  have halone : alone.2 = c.taking program := reportAll_state c program
  refine ⟨?_, ?_, ?_, ?_⟩
  · rw [htogether, halone, recorded_taking, recorded_taking, hunseen]
  · have hsent : emissions together.1 = c.unseen s.reports := emissions_reportAll c s.reports
    rw [hsent, hunseen, emissions_reportAll]
  · have hnew : countNew together.1 = (c.unseen s.reports).length :=
      countNew_reportAll hsteady s.reports
    rw [hnew, hunseen, hc.faithful.length_unseen]
  · rw [← hsuccesses] at hcount ⊢
    rw [htogether, successCount_taking hcount]

theorem runSchedule_same_program_two_workers :
    let sink : Sink := ⟨fun _ => [], fun past _ => past.isEmpty⟩
    let c := ((new sink).step (.failure ⟨"lost", 1, []⟩ "before" [] : Call Unit)).2
    let lost : Report := ⟨some ⟨"lost", 2, []⟩, "again", []⟩
    let full : Report := ⟨some ⟨"full", 3, [⟨"disk", 0⟩]⟩, "first", []⟩
    let done : Report := ⟨none, "", []⟩
    let fuller : Report := ⟨some ⟨"full", 4, []⟩, "second", []⟩
    let program := [lost, full, done, fuller]
    let s : Schedule 2 := [(1, lost), (1, full), (0, lost), (1, done), (1, fuller), (0, full),
      (0, done), (0, fuller)]
    s.Merges (fun _ => program) ∧
      (c.runSchedule s).2.recorded = [⟨"lost", 1, []⟩, ⟨"full", 3, [⟨"disk", 0⟩]⟩] ∧
      emissions (c.runSchedule s).1 = [⟨⟨"full", 3, [⟨"disk", 0⟩]⟩, "first", []⟩] ∧
      countNew (c.runSchedule s).1 = 1 ∧ (c.runSchedule s).2.successCount.toNat = 2 := by
  intro sink c lost full done fuller program s
  have hs : s.Merges fun _ => program := by decide
  have hsteady : c.Steady := fun _ _ => rfl
  obtain ⟨hrecorded, hsent, hnew, hcount⟩ :=
    runSchedule_same_program (by decide) (.step (.new sink) _) hsteady hs (by decide)
  exact ⟨hs, hrecorded.trans (by decide), hsent.trans (by decide), hnew.trans (by decide),
    hcount.trans (by decide)⟩

end Collector

end FirstSeen.Aggregate
