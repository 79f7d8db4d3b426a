import FirstSeen.Proofs.Aggregate.Replies

/-!
A run of a collector and one deduplicated copy of all faults that the run brought. Calls may bring a
fault in three ways and a success in three ways, and readings of the state may come in between. At
every moment the collector holds the deduplicated copy of what has been brought so far, so each
answer can be told from the earlier calls alone, and at the end the outcome carries the copy of the
whole.
-/
namespace FirstSeen

namespace Aggregate

open FirstSeen.Unique

variable {α : Type} {sink : Sink} {c : Collector}

namespace Call

/-- The answer to a call that reports, given which texts came up in earlier calls. -/
def answer (known : String → Bool) : Call α → Option (Answer α)
  | .report fault _ _ => some (.isNew (fault.any fun f => !known f.text))
  | .failure fault _ _ => some (.isNew (!known fault.text))
  | .record (.ok value) _ _ => some (.value (some value))
  | .record (.error _) _ _ => some (.value none)
  | .success => some .nothing
  | .successCount | .faultCount | .inspect | .err => none

theorem due_of_answer {call : Call α} {found : Findings} {a : Answer α}
    (h : call.answer found.faults.seen.has = some a) : call.due found = a := by
  cases call with
  | record result message context =>
    cases result with
    | ok value => exact Option.some.inj h
    | error fault => exact Option.some.inj h
  | successCount => exact absurd h nofun
  | faultCount => exact absurd h nofun
  | inspect => exact absurd h nofun
  | err => exact absurd h nofun
  | _ => exact Option.some.inj h

end Call

namespace Collector

theorem step_reply (h : c.Steady) (call : Call α) {a : Answer α}
    (ha : call.answer c.findings.faults.seen.has = some a) :
    (c.step call).1.reply = .answer a := by
  rw [step_reply_eq, h.any_breaks, Call.due_of_answer ha]
  rfl

/-- A run does, call by call, what one copy of everything it brought does at once. -/
theorem run_new_one_shot (hsteady : (new sink).Steady) (calls : List (Call α))
    (hcount : calls.countP Call.isSuccess < UInt64.size) :
    let run := (new sink).run calls
    let faults := calls.filterMap Call.fault?
    let copied := (copy (KeyProc.ofFun Fault.text) () (some faults)).1
    (∃ o : Outcome, run.2.finish.reply = .answer o ∧ Outcome.faults? o = copied ∧
      (o = .ok () ↔ copied = none) ∧ Outcome.kind o =
        if faults = [] then .ok
        else if calls.countP Call.isSuccess = 0 then .failed else .partially) ∧
    run.2.faultCount = (copied.getD []).length ∧
    run.2.successCount.toNat = calls.countP Call.isSuccess ∧
    ∀ earlier call later, calls = earlier ++ call :: later → ∀ a,
      call.answer (fun text => decide
        (text ∈ (earlier.filterMap Call.fault?).map Fault.text)) = some a →
      (run.1[earlier.length]?).map Trace.reply = some (.answer a) := by
  intro run faults copied
  have hstate : run.2 = (new sink).taking (calls.flatMap Call.reports) := run_state _ _
  have hrecorded : run.2.recorded = fresh Fault.text Keys.empty faults := by
    rw [hstate, recorded_taking_new, Call.faults_flatMap_reports]
  have hempty : run.2.recorded = [] ↔ faults = [] := by rw [hrecorded, fresh_empty_eq_nil_iff]
  have hcopied : copied = if faults = [] then none else some run.2.recorded := by
    rw [hrecorded]
    exact copy_ofFun Fault.text faults
  have hsuccesses : run.2.successCount.toNat = calls.countP Call.isSuccess := by
    have hsum := Call.successes_flatMap_reports calls
    rw [hstate, successCount_taking_new (hsum ▸ hcount), hsum]
  refine ⟨⟨_, finish_reply run.2, ?_, ?_, ?_⟩, ?_, hsuccesses, ?_⟩
  · rw [Outcome.faults?_classify, hcopied]
    simp only [hempty]
  · rw [← Outcome.faults?_eq_none_iff, Outcome.faults?_classify, hcopied]
    simp only [hempty]
  · have hzero : run.2.successCount = 0 ↔ calls.countP Call.isSuccess = 0 := by
      rw [← hsuccesses, ← UInt64.toNat_inj]
      rfl
    rw [Outcome.kind_classify]
    simp only [hempty, hzero]
  · rw [faultCount_eq, hcopied]
    split
    · rename_i h
      rw [hempty.2 h]
      rfl
    · rfl
  · rintro earlier call later rfl a ha
    have hearlier : ((new sink).run earlier).2.Steady := by
      rw [run_state]
      exact hsteady.taking _
    rw [run_getElem?, Option.map_some, step_reply hearlier call (by rw [seen_run_new]; exact ha)]

theorem run_new_one_shot_seven_calls :
    let lost : Fault := ⟨"lost", 1, [⟨"net", 0⟩]⟩
    let full : Fault := ⟨"full", 2, []⟩
    let lost' : Fault := ⟨"lost", 3, []⟩
    let calls : List (Call ℕ) := [.success, .failure lost "first" [], .record (.ok 5) "" [],
      .record (.error full) "second" [], .faultCount, .report (some lost') "third" [],
      .report none "" []]
    let run := (new Sink.silent).run calls
    (∃ o : Outcome, run.2.finish.reply = .answer o ∧ Outcome.faults? o = some [lost, full] ∧
        Outcome.kind o = .partially) ∧
      run.2.faultCount = 2 ∧ run.2.successCount.toNat = 3 ∧
      (run.1[3]?).map Trace.reply = some (.answer (.value none)) ∧
      (run.1[5]?).map Trace.reply = some (.answer (.isNew false)) := by
  intro lost full lost' calls run
  obtain ⟨⟨o, hfinish, hfaults, -, hkind⟩, hdistinct, hsuccesses, hreplies⟩ :=
    run_new_one_shot (fun _ _ => rfl : (new Sink.silent).Steady) calls (by decide)
  exact ⟨⟨o, hfinish, hfaults.trans (by decide), hkind.trans (by decide)⟩,
    hdistinct.trans (by decide), hsuccesses.trans (by decide),
    hreplies (calls.take 3) (.record (.error full) "second" []) (calls.drop 4) rfl _ rfl,
    hreplies (calls.take 5) (.report (some lost') "third" []) (calls.drop 6) rfl _ rfl⟩

end Collector

end Aggregate

end FirstSeen
