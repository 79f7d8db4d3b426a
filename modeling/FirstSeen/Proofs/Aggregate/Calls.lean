import FirstSeen.Proofs.Aggregate.Reports

/-!
Calls and runs as reports. A call amounts to one report or to none, and leaves the collector as that
report does; so a run leaves the collector as its reports do, and each call of a run meets what the
calls before it have left. A collector is reachable when some run has led to it from a new one,
whatever its sink did on the way. In every reachable collector the texts it has seen are the texts
of the faults that it has recorded, so the two hold the same knowledge in two forms. The outcome
depends on the recorded faults and on whether there was a success.
-/
namespace FirstSeen

namespace Outcome

inductive Kind where
  | ok
  | failed
  | partially
  deriving DecidableEq

def kind : Outcome → Kind
  | .ok () => .ok
  | .error (.failed _) => .failed
  | .error (.partially _) => .partially

def faults? : Outcome → Option (List Fault)
  | .ok () => none
  | .error failure => some failure.combined.faults

theorem faults?_eq_none_iff {o : Outcome} : faults? o = none ↔ o = .ok () := by
  cases o with
  | ok => exact ⟨fun _ => rfl, fun _ => rfl⟩
  | error failure =>
    exact ⟨fun h => absurd h (Option.some_ne_none _), fun h => absurd h (by simp)⟩

theorem faults?_classify (successes : UInt64) (fs : List Fault) :
    faults? (classify successes (Combined.ofList? fs)) = if fs = [] then none else some fs := by
  by_cases h : fs = []
  · rw [if_pos h, Combined.ofList?_eq_none_iff.2 h]
    rfl
  · rw [if_neg h, Combined.ofList?_of_ne_nil h, classify, faults?, Failure.combined_classify]

theorem kind_classify (successes : UInt64) (fs : List Fault) :
    kind (classify successes (Combined.ofList? fs)) =
      if fs = [] then .ok else if successes = 0 then .failed else .partially := by
  by_cases h : fs = []
  · rw [if_pos h, Combined.ofList?_eq_none_iff.2 h]
    rfl
  · rw [if_neg h, Combined.ofList?_of_ne_nil h, classify, Failure.classify]
    split <;> rfl

end Outcome

namespace Aggregate

open FirstSeen.Unique

variable {α : Type}

namespace Call

def reports : Call α → List Report
  | .report fault message context => [⟨fault, message, context⟩]
  | .failure fault message context => [⟨some fault, message, context⟩]
  | .record (.error fault) message context => [⟨some fault, message, context⟩]
  | .record (.ok _) _ _ => [⟨none, "", []⟩]
  | .success => [⟨none, "", []⟩]
  | .successCount | .faultCount | .inspect | .err => []

def fault? : Call α → Option Fault
  | .report fault _ _ => fault
  | .failure fault _ _ => some fault
  | .record (.error fault) _ _ => some fault
  | _ => none

def isSuccess : Call α → Bool
  | .report none _ _ => true
  | .record (.ok _) _ _ => true
  | .success => true
  | _ => false

theorem faults_reports (call : Call α) : Report.faults call.reports = call.fault?.toList := by
  cases call with
  | report fault message context => cases fault <;> rfl
  | record result message context => cases result <;> rfl
  | _ => rfl

theorem successes_reports (call : Call α) :
    Report.successes call.reports = if call.isSuccess then 1 else 0 := by
  cases call with
  | report fault message context => cases fault <;> rfl
  | record result message context => cases result <;> rfl
  | _ => rfl

theorem faults_flatMap_reports (calls : List (Call α)) :
    Report.faults (calls.flatMap Call.reports) = calls.filterMap fault? := by
  induction calls with
  | nil => rfl
  | cons call rest ih =>
    rw [List.flatMap_cons, Report.faults_append, ih, faults_reports, List.filterMap_cons]
    cases call.fault? <;> rfl

theorem successes_flatMap_reports (calls : List (Call α)) :
    Report.successes (calls.flatMap Call.reports) = calls.countP isSuccess := by
  induction calls with
  | nil => rfl
  | cons call rest ih =>
    rw [List.flatMap_cons, Report.successes, List.countP_append, List.countP_cons, ← ih,
      Nat.add_comm]
    exact congrArg _ (successes_reports call)

end Call

namespace Collector

def Faithful (c : Collector) : Prop :=
  ∀ t, c.findings.faults.seen.has t = true ↔ t ∈ c.recordedTexts

inductive Reachable : Collector → Prop
  | new (sink : Sink) : Reachable (new sink)
  | step {α : Type} {c : Collector} (hc : Reachable c) (call : Call α) : Reachable (c.step call).2

variable {c : Collector} {rs : List Report}

theorem step_state (c : Collector) (call : Call α) : (c.step call).2 = c.taking call.reports := by
  cases call with
  | report fault message context => exact report_state c ⟨fault, message, context⟩
  | failure fault message context => exact report_state c ⟨some fault, message, context⟩
  | record result message context =>
    cases result with
    | ok value => exact report_state c ⟨none, "", []⟩
    | error fault => exact report_state c ⟨some fault, message, context⟩
  | success => exact report_state c ⟨none, "", []⟩
  | successCount => exact (taking_nil c).symm
  | faultCount => exact (taking_nil c).symm
  | inspect => exact (taking_nil c).symm
  | err => exact (taking_nil c).symm

theorem run_state (c : Collector) (calls : List (Call α)) :
    (c.run calls).2 = c.taking (calls.flatMap Call.reports) := by
  induction calls generalizing c with
  | nil => exact (taking_nil c).symm
  | cons call rest ih =>
    change ((c.step call).2.run rest).2 = _
    rw [ih, step_state, List.flatMap_cons, taking_append]

theorem faithful_new (sink : Sink) : (new sink).Faithful := by
  intro t
  have hseen : (new sink).findings.faults.seen.has t = false := Keys.has_empty t
  rw [hseen]
  exact ⟨fun h => absurd h (by decide), fun h => absurd h List.not_mem_nil⟩

theorem recordedTexts_taking (c : Collector) (rs : List Report) :
    (c.taking rs).recordedTexts = c.recordedTexts ++ (c.unseen rs).map Emission.text := by
  rw [recordedTexts, recorded_taking, List.map_append, List.map_map]
  rfl

theorem mem_map_text_unseen {t : String} : t ∈ (c.unseen rs).map Emission.text ↔
    t ∈ Report.texts rs ∧ c.findings.faults.seen.has t = false := by
  rw [unseen, mem_map_fresh, Report.map_text_emissions]

theorem Faithful.taking (h : c.Faithful) (rs : List Report) : (c.taking rs).Faithful := by
  intro t
  rw [seen_taking, Keys.has_extend, recordedTexts_taking, List.mem_append, mem_map_text_unseen,
    ← h t]
  by_cases ht : c.findings.faults.seen.has t = true
  · simp [ht]
  · simp [ht]

theorem Reachable.faithful (hc : c.Reachable) : c.Faithful := by
  induction hc with
  | new sink => exact faithful_new sink
  | step _ call ih =>
    rw [step_state]
    exact ih.taking call.reports

theorem Faithful.length_unseen (h : c.Faithful) (rs : List Report) : (c.unseen rs).length =
    ((Report.texts rs).toFinset \ c.recordedTexts.toFinset).card := by
  rw [unseen, length_fresh h, Report.map_text_emissions]

theorem recorded_run (c : Collector) (calls : List (Call α)) : (c.run calls).2.recorded =
    c.recorded ++ (c.unseen (calls.flatMap Call.reports)).map Emission.fault := by
  rw [run_state, recorded_taking]

theorem recorded_taking_new (sink : Sink) (rs : List Report) :
    ((new sink).taking rs).recorded = fresh Fault.text Keys.empty (Report.faults rs) := by
  rw [recorded, findings_taking]
  exact Roster.toList_append _

theorem recordedTexts_taking_new (sink : Sink) (rs : List Report) :
    ((new sink).taking rs).recordedTexts = (Report.texts rs).eraseDups := by
  rw [recordedTexts, recorded_taking_new, map_fresh_empty]
  rfl

theorem successCount_taking_new {sink : Sink} (h : Report.successes rs < UInt64.size) :
    ((new sink).taking rs).successCount.toNat = Report.successes rs := by
  have hzero : (new sink).successCount.toNat = 0 := rfl
  rw [successCount_taking (by rwa [hzero, Nat.zero_add]), hzero, Nat.zero_add]

theorem successCount_run_new {sink : Sink} {calls : List (Call α)}
    (h : calls.countP Call.isSuccess < UInt64.size) :
    ((new sink).run calls).2.successCount.toNat = calls.countP Call.isSuccess := by
  have hsum := Call.successes_flatMap_reports calls
  rw [run_state, successCount_taking_new (hsum ▸ h), hsum]

theorem successCount_run_new_eq_zero_iff {sink : Sink} {calls : List (Call α)}
    (h : calls.countP Call.isSuccess < UInt64.size) :
    ((new sink).run calls).2.successCount = 0 ↔ calls.countP Call.isSuccess = 0 := by
  rw [← successCount_run_new h, ← UInt64.toNat_inj]
  rfl

theorem faultCount_eq (c : Collector) : c.faultCount = c.recorded.length :=
  Array.length_toList.symm

theorem faultCount_reportAll_new (sink : Sink) (rs : List Report) :
    ((new sink).reportAll rs).2.faultCount = ((new sink).unseen rs).length := by
  have hnone : (new sink).recorded = [] := rfl
  rw [faultCount_eq, reportAll_state, recorded_taking, hnone, List.nil_append, List.length_map]

theorem finish_reply (c : Collector) : c.finish.reply =
    .answer (Outcome.classify c.successCount (Combined.ofList? c.recorded)) := rfl

theorem length_run (c : Collector) (calls : List (Call α)) :
    (c.run calls).1.length = calls.length := by
  induction calls generalizing c with
  | nil => rfl
  | cons call rest ih => exact congrArg (· + 1) (ih (c.step call).2)

theorem run_getElem? (c : Collector) (earlier later : List (Call α)) (call : Call α) :
    (c.run (earlier ++ call :: later)).1[earlier.length]? =
      some ((c.run earlier).2.step call).1 := by
  rw [run_append, List.getElem?_append_right (length_run c earlier).le, length_run, Nat.sub_self]
  rfl

/-- After some calls a new collector has seen the texts that they brought. -/
theorem seen_run_new (sink : Sink) (calls : List (Call α)) :
    ((new sink).run calls).2.findings.faults.seen.has = fun text =>
      decide (text ∈ (calls.filterMap Call.fault?).map Fault.text) := by
  funext text
  rw [run_state, seen_taking, Bool.eq_iff_iff, Keys.has_extend, decide_eq_true_eq, Report.texts,
    Call.faults_flatMap_reports]
  have hnone : (new sink).findings.faults.seen.has text = false := Keys.has_empty text
  rw [hnone]
  exact or_iff_left Bool.false_ne_true

end Collector

end Aggregate

end FirstSeen
