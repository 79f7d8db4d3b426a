import FirstSeen.Proofs.Aggregate.Replies

/-!
The sink and the record keep step. Whatever the sink does, at any time of a run it has received the
recorded faults in their order and nothing else, each with the message and the context of the call
that brought its text first. A fault whose text came up before changes neither, so what a run has
recorded and sent at one time is a beginning of what it has recorded and sent later.
-/
namespace FirstSeen.Aggregate

open FirstSeen.Unique

variable {α : Type} {e : Emission}

namespace Call

def texts (calls : List (Call α)) : List String := (calls.filterMap fault?).map Fault.text

def BringFirst (calls : List (Call α)) (e : Emission) : Prop :=
  ∃ earlier call later, calls = earlier ++ call :: later ∧ call.emission? = some e ∧
    e.text ∉ texts earlier

theorem BringFirst.append {calls : List (Call α)} (h : BringFirst calls e)
    (more : List (Call α)) : BringFirst (calls ++ more) e := by
  obtain ⟨earlier, call, later, rfl, hcall, hnew⟩ := h
  exact ⟨earlier, call, later ++ more, by simp, hcall, hnew⟩

end Call

namespace Collector

theorem step_emissions_run_new (sink : Sink) (earlier : List (Call α)) (call : Call α) :
    (((new sink).run earlier).2.step call).1.emissions =
      call.emission?.toList.filter fun e => decide (e.text ∉ Call.texts earlier) := by
  rw [step_emissions, unseen_reports, seen_run_new]
  refine List.filter_congr fun e _ => ?_
  rw [Bool.eq_iff_iff, Bool.not_eq_true', decide_eq_false_iff_not, decide_eq_true_iff, Call.texts]

theorem emissions_run_new_concat (sink : Sink) (earlier : List (Call α)) (call : Call α) :
    emissions ((new sink).run (earlier ++ [call])).1 = emissions ((new sink).run earlier).1 ++
      call.emission?.toList.filter fun e => decide (e.text ∉ Call.texts earlier) := by
  rw [run_append, emissions, List.flatMap_append, ← step_emissions_run_new sink]
  exact congrArg _ (List.append_nil _)

theorem bringFirst_of_mem_emissions {sink : Sink} {calls : List (Call α)}
    (h : e ∈ emissions ((new sink).run calls).1) : Call.BringFirst calls e := by
  -- From the end: what a call adds depends on the calls before it.
  induction calls using List.reverseRecOn with
  | nil => exact absurd h List.not_mem_nil
  | append_singleton earlier call ih =>
    rw [emissions_run_new_concat, List.mem_append] at h
    rcases h with h | h
    · exact (ih h).append [call]
    · obtain ⟨hcall, hnew⟩ := List.mem_filter.1 h
      exact ⟨earlier, call, [], rfl, Option.mem_toList.1 hcall, of_decide_eq_true hnew⟩

theorem map_fault_emissions_run_new (sink : Sink) (calls : List (Call α)) :
    (emissions ((new sink).run calls).1).map Emission.fault =
      ((new sink).run calls).2.recorded := by
  rw [recorded_run, emissions_run]
  rfl

theorem run_new_append (sink : Sink) (earlier later : List (Call α)) : ∃ more,
    emissions ((new sink).run (earlier ++ later)).1 =
        emissions ((new sink).run earlier).1 ++ more ∧
      ((new sink).run (earlier ++ later)).2.recorded =
        ((new sink).run earlier).2.recorded ++ more.map Emission.fault ∧
      ∀ e ∈ more, e.text ∉ Call.texts earlier := by
  have hmore := emissions_run ((new sink).run earlier).2 later
  refine ⟨emissions (((new sink).run earlier).2.run later).1, ?_, ?_, ?_⟩
  · rw [run_append, emissions, List.flatMap_append]
    rfl
  · rw [run_append, recorded_run _ later, hmore]
  · intro e he
    rw [hmore] at he
    have hnew := (mem_map_text_unseen.1 (List.mem_map_of_mem he)).2
    rw [seen_run_new] at hnew
    exact of_decide_eq_false hnew

/-- At any time the sink has received what is recorded, as the first call for each text gave it. -/
theorem run_new_first_context (sink : Sink) (calls : List (Call α)) :
    let run := (new sink).run calls
    run.2.emitted = emissions run.1 ∧
    (emissions run.1).map Emission.fault = run.2.recorded ∧
    (∀ e ∈ emissions run.1, Call.BringFirst calls e) ∧
    (∀ earlier call later, calls = earlier ++ call :: later →
      (run.1[earlier.length]?).map Trace.emissions =
        some (call.emission?.toList.filter fun e => decide (e.text ∉ Call.texts earlier))) ∧
    ∀ earlier later, calls = earlier ++ later → ∃ more,
      emissions run.1 = emissions ((new sink).run earlier).1 ++ more ∧
      run.2.recorded = ((new sink).run earlier).2.recorded ++ more.map Emission.fault ∧
      ∀ e ∈ more, e.text ∉ Call.texts earlier := by
  intro run
  refine ⟨emitted_run _ calls, map_fault_emissions_run_new sink calls,
    fun e he => bringFirst_of_mem_emissions he, ?_, ?_⟩
  · rintro earlier call later rfl
    rw [run_getElem?, Option.map_some, step_emissions_run_new]
  · rintro earlier later rfl
    exact run_new_append sink earlier later

theorem run_new_first_context_broken_sink :
    let lost : Fault := ⟨"lost", 1, [⟨"net", 0⟩]⟩
    let full : Fault := ⟨"full", 2, []⟩
    let lost' : Fault := ⟨"lost", 3, []⟩
    let sink : Sink := ⟨fun _ => [], fun past _ => past.isEmpty⟩
    let calls : List (Call ℕ) := [.failure lost "first" [⟨"pod", "web"⟩], .success,
      .report (some lost') "again" [], .err, .record (.error full) "second" []]
    let run := (new sink).run calls
    emissions run.1 = [⟨lost, "first", [⟨"pod", "web"⟩]⟩, ⟨full, "second", []⟩] ∧
      run.2.recorded = [lost, full] ∧
      (run.1[0]?).map Trace.reply = some .broken ∧
      (run.1[2]?).map Trace.emissions = some [] := by
  intro lost full lost' sink calls run
  obtain ⟨-, hrecorded, -, hstep, -⟩ := run_new_first_context sink calls
  have hsent : emissions run.1 = [⟨lost, "first", [⟨"pod", "web"⟩]⟩, ⟨full, "second", []⟩] := by
    decide
  exact ⟨hsent, hrecorded.symm.trans (by rw [hsent]; rfl), rfl,
    hstep (calls.take 2) (.report (some lost') "again" []) (calls.drop 3) rfl⟩

end Collector

end FirstSeen.Aggregate
