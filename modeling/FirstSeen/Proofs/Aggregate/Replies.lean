import FirstSeen.Proofs.Aggregate.Calls

/-!
What a call hands to the sink and what it answers, for a sink that may break down at any time. The
sink receives the fault of the call with the message and the context of the call, if the text is
unseen, and nothing otherwise. Unless the sink breaks down over that, the answer is the one that the
findings alone call for.
-/
namespace FirstSeen.Aggregate

open FirstSeen.Unique

variable {α β : Type}

theorem Reply.map_ite (f : α → β) (p : Prop) [Decidable p] (a : α) :
    (if p then .broken else .answer a : Reply α).map f = if p then .broken else .answer (f a) := by
  split <;> rfl

namespace Call

def emission? : Call α → Option Emission
  | .report fault message context => fault.map fun f => ⟨f, message, context⟩
  | .failure fault message context => some ⟨fault, message, context⟩
  | .record (.error fault) message context => some ⟨fault, message, context⟩
  | _ => none

def due (found : Findings) : Call α → Answer α
  | .report fault _ _ => .isNew (fault.any fun f => !found.faults.seen.has f.text)
  | .failure fault _ _ => .isNew (!found.faults.seen.has fault.text)
  | .record (.ok value) _ _ => .value (some value)
  | .record (.error _) _ _ => .value none
  | .success => .nothing
  | .successCount => .count found.successes.toNat
  | .faultCount => .count found.faults.size
  | .inspect => .shown found.shown
  | .err => .outcome (Outcome.classify found.successes found.faults.err)

theorem emissions_reports (call : Call α) :
    Report.emissions call.reports = call.emission?.toList := by
  cases call with
  | report fault message context => cases fault <;> rfl
  | record result message context => cases result <;> rfl
  | _ => rfl

end Call

namespace Collector

variable {c : Collector}

theorem unseen_reports (c : Collector) (call : Call α) : c.unseen call.reports =
    call.emission?.toList.filter fun e => !c.findings.faults.seen.has e.text := by
  rw [unseen, Call.emissions_reports]
  cases call.emission? with
  | none => rfl
  | some e =>
    rw [Option.toList_some, fresh_cons]
    cases h : c.findings.faults.seen.has e.text <;> simp [h, fresh_nil]

theorem step_emissions (c : Collector) (call : Call α) :
    (c.step call).1.emissions = c.unseen call.reports := by
  cases call with
  | report fault message context => exact report_emissions c ⟨fault, message, context⟩
  | failure fault message context => exact report_emissions c ⟨some fault, message, context⟩
  | record result message context =>
    cases result with
    | ok value => exact report_emissions c ⟨none, "", []⟩
    | error fault => exact report_emissions c ⟨some fault, message, context⟩
  | success => exact report_emissions c ⟨none, "", []⟩
  | _ => rfl

theorem step_reply_eq (c : Collector) (call : Call α) : (c.step call).1.reply =
    if (c.unseen call.reports).any (c.sink.breaks c.emitted) then .broken
    else .answer (call.due c.findings) := by
  cases call with
  | report fault message context =>
    change (c.report fault message context).1.reply.map _ = _
    rw [report_eq c ⟨fault, message, context⟩, Reply.map_ite]
    rfl
  | failure fault message context =>
    change (c.report (some fault) message context).1.reply.map _ = _
    rw [report_eq c ⟨some fault, message, context⟩, Reply.map_ite]
    rfl
  | record result message context =>
    cases result with
    | ok value => rfl
    | error fault =>
      change ((c.report (some fault) message context).1.reply.map _).map _ = _
      rw [report_eq c ⟨some fault, message, context⟩, Reply.map_ite, Reply.map_ite]
      rfl
  | _ => rfl

theorem emissions_run (c : Collector) (calls : List (Call α)) :
    emissions (c.run calls).1 = c.unseen (calls.flatMap Call.reports) := by
  induction calls generalizing c with
  | nil => rfl
  | cons call rest ih =>
    change (c.step call).1.emissions ++ emissions ((c.step call).2.run rest).1 = _
    rw [step_emissions, step_state, ih, List.flatMap_cons, unseen_append]

theorem emitted_run (c : Collector) (calls : List (Call α)) :
    (c.run calls).2.emitted = c.emitted ++ emissions (c.run calls).1 := by
  rw [run_state, emissions_run]
  rfl

end Collector

end FirstSeen.Aggregate
