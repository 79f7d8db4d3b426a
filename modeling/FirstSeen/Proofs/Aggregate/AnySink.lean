import FirstSeen.Proofs.Aggregate.Replies

/-!
Two runs of the same calls with different sinks, each of which may break down whenever it likes. The
locks of the two collectors are poisoned at different times, but the findings behind them agree
after every step, and so does what the sinks have received. So every step is answered alike in both,
except that a step during which a sink breaks down gets no answer in that run.
-/
namespace FirstSeen.Aggregate

variable {α : Type}

def Call.answerNew : Call α → Option (Answer α)
  | .report _ _ _ => some (.isNew true)
  | .failure _ _ _ => some (.isNew true)
  | .record _ _ _ => some (.value none)
  | _ => none

/-- The sink got `sent` after `past`; the answer is `due`, or missing if the sink broke down. -/
structure Trace.Settles (t : Trace (Answer α)) (sink : Sink) (past sent : List Emission)
    (due : Answer α) : Prop where
  emissions : t.emissions = sent
  reply : t.reply = if sent.any (sink.breaks past) then .broken else .answer due

namespace Collector

structure Agree (c d : Collector) : Prop where
  findings : c.findings = d.findings
  emitted : c.emitted = d.emitted

theorem step_settles (c : Collector) (call : Call α) :
    (c.step call).1.Settles c.sink c.emitted (c.unseen call.reports) (call.due c.findings) :=
  ⟨step_emissions c call, step_reply_eq c call⟩

theorem answerNew_of_unseen_ne_nil {c : Collector} {call : Call α}
    (h : c.unseen call.reports ≠ []) : call.answerNew = some (call.due c.findings) := by
  rw [unseen_reports] at h
  obtain ⟨e, he⟩ := List.exists_mem_of_ne_nil _ h
  obtain ⟨hcall, hnew⟩ := List.mem_filter.1 he
  have hcall : call.emission? = some e := Option.mem_toList.1 hcall
  cases call with
  | report fault message context =>
    obtain ⟨f, rfl, rfl⟩ := Option.map_eq_some_iff.1 hcall
    exact congrArg (some ∘ Answer.isNew) hnew.symm
  | failure fault message context =>
    obtain rfl := Option.some.inj hcall
    exact congrArg (some ∘ Answer.isNew) hnew.symm
  | record result message context =>
    cases result with
    | ok value => exact absurd hcall nofun
    | error fault => rfl
  | _ => exact absurd hcall nofun

namespace Agree

variable {c d : Collector}

theorem new (a b : Sink) : (new a).Agree (new b) := ⟨rfl, rfl⟩

theorem unseen (h : c.Agree d) (rs : List Report) : c.unseen rs = d.unseen rs := by
  rw [Collector.unseen, Collector.unseen, h.findings]

theorem step (h : c.Agree d) (call : Call α) : (c.step call).2.Agree (d.step call).2 := by
  rw [step_state, step_state]
  constructor
  · rw [findings_taking, findings_taking, h.findings]
  · exact congrArg₂ _ h.emitted (h.unseen call.reports)

theorem run (h : c.Agree d) (calls : List (Call α)) : (c.run calls).2.Agree (d.run calls).2 := by
  induction calls generalizing c d with
  | nil => exact h
  | cons call rest ih => exact ih (h.step call)

theorem emissions_run (h : c.Agree d) (calls : List (Call α)) :
    emissions (c.run calls).1 = emissions (d.run calls).1 := by
  rw [Collector.emissions_run, Collector.emissions_run, h.unseen]

theorem finish (h : c.Agree d) : c.finish = d.finish := by
  rw [Collector.finish, Collector.finish, h.findings]

theorem err (h : c.Agree d) : c.err.1 = d.err.1 := by
  rw [Collector.err, Collector.err, h.findings]

end Agree

/-- What a sink does has no effect but that steps during which it breaks down stay unanswered. -/
theorem run_new_any_sink (a b : Sink) (calls : List (Call α)) :
    (∀ earlier, earlier <+: calls →
      let x := (new a).run earlier
      let y := (new b).run earlier
      x.2.recorded = y.2.recorded ∧ x.2.successCount = y.2.successCount ∧
        x.2.faultCount = y.2.faultCount ∧ emissions x.1 = emissions y.1 ∧
        x.2.err.1 = y.2.err.1 ∧ x.2.finish = y.2.finish) ∧
    ∀ earlier call later, calls = earlier ++ call :: later →
      let past := emissions ((new a).run earlier).1
      ∃ s t sent due, ((new a).run calls).1[earlier.length]? = some s ∧
        ((new b).run calls).1[earlier.length]? = some t ∧
        s.Settles a past sent due ∧ t.Settles b past sent due ∧
        (sent ≠ [] → call.answerNew = some due) := by
  constructor
  · intro earlier _ x y
    have h : x.2.Agree y.2 := (Agree.new a b).run earlier
    refine ⟨?_, ?_, ?_, (Agree.new a b).emissions_run earlier, h.err, h.finish⟩
    · rw [recorded, recorded, h.findings]
    · rw [successCount, successCount, h.findings]
    · rw [faultCount, faultCount, h.findings]
  · rintro earlier call later rfl past
    have h : ((new a).run earlier).2.Agree ((new b).run earlier).2 := (Agree.new a b).run earlier
    have hpast : ((new a).run earlier).2.emitted = past := emitted_run (new a) earlier
    have hs := step_settles ((new a).run earlier).2 call
    have ht := step_settles ((new b).run earlier).2 call
    have hsinks : ((new a).run earlier).2.sink = a ∧ ((new b).run earlier).2.sink = b := by
      rw [run_state, run_state]
      exact ⟨rfl, rfl⟩
    -- The findings and the past agree, so the second run is due the same as the first.
    rw [hsinks.1, hpast] at hs
    rw [hsinks.2, ← h.emitted, hpast, ← h.unseen, ← h.findings] at ht
    exact ⟨_, _, _, _, run_getElem? _ earlier later call, run_getElem? _ earlier later call, hs, ht,
      answerNew_of_unseen_ne_nil⟩

theorem run_new_any_sink_six_calls :
    let a : Sink := ⟨fun _ => [], fun past _ => past.isEmpty⟩
    let b : Sink := Sink.fragile fun message => message = "urgent"
    let lost : Fault := ⟨"lost", 1, []⟩
    let full : Fault := ⟨"full", 2, [⟨"disk", 0⟩]⟩
    let calls : List (Call ℕ) := [.failure lost "first" [], .success, .err,
      .record (.error full) "urgent" [], .report (some lost) "urgent" [], .faultCount]
    let x := (new a).run calls
    let y := (new b).run calls
    x.2.recorded = [lost, full] ∧ y.2.recorded = [lost, full] ∧ x.2.finish = y.2.finish ∧
      x.1.map (fun t => decide (t.reply matches .broken)) =
        [true, false, false, false, false, false] ∧
      y.1.map (fun t => decide (t.reply matches .broken)) =
        [false, false, false, true, false, false] := by
  intro a b lost full calls x y
  obtain ⟨hrecorded, -, -, -, -, hfinish⟩ :=
    (run_new_any_sink a b calls).1 calls List.prefix_rfl
  have hx : x.2.recorded = [lost, full] := by decide
  exact ⟨hx, hrecorded.symm.trans hx, hfinish, rfl, rfl⟩

end Collector

end FirstSeen.Aggregate
