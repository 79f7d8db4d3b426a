import FirstSeen.Aggregate.Schedule
import FirstSeen.Proofs.Unique.Fresh

/-!
What reports do to a collector. One report is described completely: the state that it leaves behind,
what the sink receives, and the answer. From this follows the state after any sequence of reports:
the faults of the sequence are appended to the recorded ones as far as their texts are fresh, the
sink received exactly the fresh ones, and as many calls were told so.
-/
namespace FirstSeen.Aggregate

open FirstSeen.Unique

namespace Report

def isSuccess (r : Report) : Bool := r.fault.isNone

def emission? (r : Report) : Option Emission := r.fault.map fun f => ⟨f, r.message, r.context⟩

def successes (rs : List Report) : ℕ := rs.countP isSuccess

def faults (rs : List Report) : List Fault := rs.filterMap Report.fault

def texts (rs : List Report) : List String := (faults rs).map Fault.text

def emissions (rs : List Report) : List Emission := rs.filterMap emission?

end Report

def Emission.text (e : Emission) : String := e.fault.text

def emissions {α : Type} (traces : List (Trace α)) : List Emission := traces.flatMap Trace.emissions

def events {α : Type} (traces : List (Trace α)) : List Log.Event := traces.flatMap Trace.events

namespace Report

theorem map_fault_emissions (rs : List Report) :
    (emissions rs).map Emission.fault = faults rs := by
  unfold emissions faults
  rw [List.map_filterMap]
  refine List.filterMap_congr fun r _ => ?_
  cases h : r.fault <;> simp [emission?, h]

theorem map_text_emissions (rs : List Report) : (emissions rs).map Emission.text = texts rs := by
  rw [texts, ← map_fault_emissions, List.map_map]
  rfl

theorem faults_append (rs more : List Report) : faults (rs ++ more) = faults rs ++ faults more :=
  List.filterMap_append

theorem emissions_append (rs more : List Report) :
    emissions (rs ++ more) = emissions rs ++ emissions more :=
  List.filterMap_append

theorem mem_faults {rs : List Report} {f : Fault} :
    f ∈ faults rs ↔ ∃ r ∈ rs, r.fault = some f := by
  rw [faults, List.mem_filterMap]

end Report

namespace Findings

def taking (found : Findings) (rs : List Report) : Findings :=
  ⟨found.faults.append (Report.faults rs),
    found.successes + UInt64.ofNat (Report.successes rs)⟩

theorem taking_append (found : Findings) (rs more : List Report) :
    found.taking (rs ++ more) = (found.taking rs).taking more := by
  have hfaults : found.faults.append (Report.faults (rs ++ more)) =
      (found.faults.append (Report.faults rs)).append (Report.faults more) := by
    rw [Report.faults_append, Roster.append_append]
  have hsuccesses : found.successes + UInt64.ofNat (Report.successes (rs ++ more)) =
      found.successes + UInt64.ofNat (Report.successes rs) +
        UInt64.ofNat (Report.successes more) := by
    rw [Report.successes, List.countP_append, UInt64.ofNat_add, UInt64.add_assoc]
    rfl
  rw [taking, hfaults, hsuccesses]
  rfl

theorem taking_fault (found : Findings) (f : Fault) (message : String)
    (context : List Log.Field) : found.taking [⟨some f, message, context⟩] =
      { found with faults := (found.faults.push f).2 } := by
  simp [taking, Report.faults, Report.successes, Report.isSuccess, Roster.append]

theorem report_success (found : Findings) (message : String) (context : List Log.Field) :
    found.report none = (false, found.taking [⟨none, message, context⟩]) := rfl

theorem report_fault (found : Findings) (f : Fault) (message : String)
    (context : List Log.Field) : found.report (some f) =
      (!found.faults.seen.has f.text, found.taking [⟨some f, message, context⟩]) := by
  have hnew : (found.faults.push f).1 = !found.faults.seen.has f.text := Roster.push_fst _ f
  rw [taking_fault, ← hnew]
  rfl

theorem back?_taking {found : Findings} {f : Fault} (h : found.faults.seen.has f.text = false)
    (message : String) (context : List Log.Field) :
    (found.taking [⟨some f, message, context⟩]).faults.items.back? = some f := by
  rw [taking_fault]
  simp [Roster.push, KeyProc.ofFun, h]

end Findings

namespace Sink

def breaksOver (sink : Sink) : List Emission → List Emission → Bool
  | _, [] => false
  | past, e :: later => sink.breaks past e || sink.breaksOver (past ++ [e]) later

theorem breaksOver_append (sink : Sink) (past later more : List Emission) :
    sink.breaksOver past (later ++ more) =
      (sink.breaksOver past later || sink.breaksOver (past ++ later) more) := by
  induction later generalizing past with
  | nil => rw [List.nil_append, List.append_nil, breaksOver, Bool.false_or]
  | cons e rest ih =>
    rw [List.cons_append, breaksOver, breaksOver, ih, Bool.or_assoc, List.append_assoc]
    rfl

end Sink

namespace Collector

variable {c : Collector} {r : Report} {rs more : List Report}

def recorded (c : Collector) : List Fault := c.findings.faults.toList

def recordedTexts (c : Collector) : List String := c.recorded.map Fault.text

def Steady (c : Collector) : Prop :=
  ∀ later emission, c.sink.breaks (c.emitted ++ later) emission = false

/-- The faults of the reports that the collector has not seen the text of, each at its first
place, with the message and the context of that report. -/
def unseen (c : Collector) (rs : List Report) : List Emission :=
  fresh Emission.text c.findings.faults.seen (Report.emissions rs)

def taking (c : Collector) (rs : List Report) : Collector where
  sink := c.sink
  state :=
    { value := c.findings.taking rs
      poisoned := c.state.poisoned || c.sink.breaksOver c.emitted (c.unseen rs) }
  emitted := c.emitted ++ c.unseen rs

theorem findings_taking (c : Collector) (rs : List Report) :
    (c.taking rs).findings = c.findings.taking rs :=
  Guarded.recover_eq_value _

theorem recorded_taking (c : Collector) (rs : List Report) :
    (c.taking rs).recorded = c.recorded ++ (c.unseen rs).map Emission.fault := by
  unfold recorded
  rw [findings_taking, Findings.taking, Roster.toList_append, ← Report.map_fault_emissions,
    fresh_map]
  rfl

theorem seen_taking (c : Collector) (rs : List Report) : (c.taking rs).findings.faults.seen =
    c.findings.faults.seen.extend (Report.texts rs) := by
  rw [findings_taking, Findings.taking, Roster.seen_append]
  rfl

theorem unseen_append (c : Collector) (rs more : List Report) :
    c.unseen (rs ++ more) = c.unseen rs ++ (c.taking rs).unseen more := by
  unfold unseen
  rw [Report.emissions_append, fresh_append, seen_taking, Report.map_text_emissions]

theorem taking_append (c : Collector) (rs more : List Report) :
    c.taking (rs ++ more) = (c.taking rs).taking more := by
  have hvalue : c.findings.taking (rs ++ more) = (c.taking rs).findings.taking more := by
    rw [Findings.taking_append, findings_taking]
  have hemitted : c.emitted ++ c.unseen (rs ++ more) =
      c.emitted ++ c.unseen rs ++ (c.taking rs).unseen more := by
    rw [unseen_append, List.append_assoc]
  have hpoisoned : (c.state.poisoned || c.sink.breaksOver c.emitted (c.unseen (rs ++ more))) =
      ((c.taking rs).state.poisoned ||
        c.sink.breaksOver (c.emitted ++ c.unseen rs) ((c.taking rs).unseen more)) := by
    rw [unseen_append, Sink.breaksOver_append, ← Bool.or_assoc]
    rfl
  rw [taking, hvalue, hpoisoned, hemitted]
  rfl

theorem successCount_taking (h : c.successCount.toNat + Report.successes rs < UInt64.size) :
    (c.taking rs).successCount.toNat = c.successCount.toNat + Report.successes rs := by
  rw [successCount, findings_taking]
  change (c.successCount + UInt64.ofNat (Report.successes rs)).toNat = _
  rw [UInt64.toNat_add, UInt64.toNat_ofNat', Nat.add_mod_mod]
  exact Nat.mod_eq_of_lt h

theorem Steady.taking (h : c.Steady) (rs : List Report) : (c.taking rs).Steady := by
  intro later emission
  have hs := h (c.unseen rs ++ later) emission
  rwa [← List.append_assoc] at hs

theorem unseen_success (c : Collector) (message : String) (context : List Log.Field) :
    c.unseen [⟨none, message, context⟩] = [] := rfl

theorem unseen_fault (c : Collector) (f : Fault) (message : String) (context : List Log.Field) :
    c.unseen [⟨some f, message, context⟩] =
      if c.findings.faults.seen.has f.text then [] else [⟨f, message, context⟩] :=
  fresh_cons _

theorem taking_of_unseen_nil (h : c.unseen rs = []) :
    c.taking rs = { c with state := c.state.write (c.findings.taking rs) } := by
  rw [taking, h, Sink.breaksOver, Bool.or_false, List.append_nil]
  rfl

theorem taking_of_unseen_singleton {e : Emission} (h : c.unseen rs = [e]) :
    c.taking rs =
      { c with
        state := ⟨c.findings.taking rs, c.state.poisoned || c.sink.breaks c.emitted e⟩
        emitted := c.emitted ++ [e] } := by
  rw [taking, h, Sink.breaksOver, Sink.breaksOver, Bool.or_false]

theorem emit_of_back? {f : Fault} (h : c.state.value.faults.items.back? = some f)
    (message : String) (context : List Log.Field) :
    c.emit message context =
      (⟨if c.sink.breaks c.emitted ⟨f, message, context⟩ then .broken else .answer true,
        [⟨f, message, context⟩], c.sink.events ⟨f, message, context⟩⟩,
        { c with
          state :=
            { c.state with
              poisoned := c.state.poisoned || c.sink.breaks c.emitted ⟨f, message, context⟩ }
          emitted := c.emitted ++ [⟨f, message, context⟩] }) := by
  rw [emit, findings, Guarded.recover_eq_value, h]
  by_cases hb : c.sink.breaks c.emitted ⟨f, message, context⟩ = true
  · simp [hb, Guarded.poison]
  · simp [hb]

theorem report_none (c : Collector) (message : String) (context : List Log.Field) :
    c.report none message context =
      (⟨.answer false, [], []⟩, c.taking [⟨none, message, context⟩]) := by
  rw [report, Findings.report_success _ message context,
    taking_of_unseen_nil (unseen_success c message context)]
  rfl

theorem report_seen {f : Fault} (h : c.findings.faults.seen.has f.text = true) (message : String)
    (context : List Log.Field) :
    c.report (some f) message context =
      (⟨.answer false, [], []⟩, c.taking [⟨some f, message, context⟩]) := by
  have hnil : c.unseen [⟨some f, message, context⟩] = [] := by rw [unseen_fault, if_pos h]
  rw [report, Findings.report_fault _ f message context, h, taking_of_unseen_nil hnil]
  rfl

theorem report_unseen {f : Fault} (h : c.findings.faults.seen.has f.text = false)
    (message : String) (context : List Log.Field) :
    c.report (some f) message context =
      (⟨if c.sink.breaks c.emitted ⟨f, message, context⟩ then .broken else .answer true,
        [⟨f, message, context⟩], c.sink.events ⟨f, message, context⟩⟩,
        c.taking [⟨some f, message, context⟩]) := by
  have hone : c.unseen [⟨some f, message, context⟩] = [⟨f, message, context⟩] := by
    rw [unseen_fault, h]
    rfl
  have hlast := Findings.back?_taking h message context
  rw [report, Findings.report_fault _ f message context, h, taking_of_unseen_singleton hone]
  exact emit_of_back?
    (c := { c with state := c.state.write (c.findings.taking [⟨some f, message, context⟩]) })
    hlast message context

theorem report_eq (c : Collector) (r : Report) :
    c.report r.fault r.message r.context =
      (⟨if (c.unseen [r]).any (c.sink.breaks c.emitted) then .broken
          else .answer (r.fault.any fun f => !c.findings.faults.seen.has f.text),
        c.unseen [r], (c.unseen [r]).flatMap c.sink.events⟩, c.taking [r]) := by
  obtain ⟨_ | f, message, context⟩ := r
  · rw [report_none, unseen_success]
    rfl
  · -- The sink learns of the fault only if its text is unseen.
    by_cases h : c.findings.faults.seen.has f.text = true
    · rw [report_seen h, unseen_fault, if_pos h]
      simp [h]
    · rw [report_unseen (by simpa using h), unseen_fault, if_neg h]
      simp [h]

theorem report_state (c : Collector) (r : Report) :
    (c.report r.fault r.message r.context).2 = c.taking [r] := by
  rw [report_eq]

theorem report_emissions (c : Collector) (r : Report) :
    (c.report r.fault r.message r.context).1.emissions = c.unseen [r] := by
  rw [report_eq]

theorem any_fault_eq (c : Collector) (r : Report) :
    (r.fault.any fun f => !c.findings.faults.seen.has f.text) = decide (c.unseen [r] ≠ []) := by
  obtain ⟨_ | f, message, context⟩ := r
  · rfl
  · rw [unseen_fault]
    cases h : c.findings.faults.seen.has f.text <;> simp [h]

theorem Steady.any_breaks (h : c.Steady) (es : List Emission) :
    es.any (c.sink.breaks c.emitted) = false :=
  List.any_eq_false.2 fun e _ => by simpa using h [] e

theorem report_reply (h : c.Steady) (r : Report) :
    (c.report r.fault r.message r.context).1.reply = .answer (decide (c.unseen [r] ≠ [])) := by
  rw [report_eq, h.any_breaks, any_fault_eq]
  rfl

theorem taking_nil (c : Collector) : c.taking [] = c := by
  have hvalue : c.findings.taking [] = c.state.value := by
    rw [findings, Guarded.recover_eq_value]
    simp [Findings.taking, Report.faults, Report.successes, Roster.append]
  rw [taking_of_unseen_nil rfl, hvalue]
  rfl

theorem reportAll_cons (c : Collector) (r : Report) (rs : List Report) : c.reportAll (r :: rs) =
    ((c.report r.fault r.message r.context).1 :: ((c.taking [r]).reportAll rs).1,
      ((c.taking [r]).reportAll rs).2) := by
  rw [← report_state]
  rfl

theorem reportAll_state (c : Collector) (rs : List Report) : (c.reportAll rs).2 = c.taking rs := by
  induction rs generalizing c with
  | nil => exact (taking_nil c).symm
  | cons r rest ih => rw [reportAll_cons, ih, ← taking_append, List.singleton_append]

theorem emissions_reportAll (c : Collector) (rs : List Report) :
    emissions (c.reportAll rs).1 = c.unseen rs := by
  induction rs generalizing c with
  | nil => rfl
  | cons r rest ih =>
    rw [reportAll_cons, emissions, List.flatMap_cons, report_emissions]
    change c.unseen [r] ++ emissions ((c.taking [r]).reportAll rest).1 = _
    rw [ih, ← unseen_append, List.singleton_append]

theorem events_reportAll (c : Collector) (rs : List Report) :
    events (c.reportAll rs).1 = (c.unseen rs).flatMap c.sink.events := by
  induction rs generalizing c with
  | nil => rfl
  | cons r rest ih =>
    have hunseen : c.unseen (r :: rest) = c.unseen [r] ++ (c.taking [r]).unseen rest :=
      unseen_append c [r] rest
    rw [reportAll_cons, events, List.flatMap_cons, report_eq]
    change (c.unseen [r]).flatMap c.sink.events ++ events ((c.taking [r]).reportAll rest).1 = _
    rw [ih, hunseen, List.flatMap_append]
    rfl

theorem countNew_reportAll (h : c.Steady) (rs : List Report) :
    countNew (c.reportAll rs).1 = (c.unseen rs).length := by
  induction rs generalizing c with
  | nil => rfl
  | cons r rest ih =>
    have hreply := report_reply h r
    have hone : (c.unseen [r]).length = if c.unseen [r] ≠ [] then 1 else 0 := by
      have hle : (c.unseen [r]).length ≤ 1 :=
        fresh_sublist.length_le.trans (List.length_filterMap_le _ _)
      split
      · rename_i hne
        have hpos := List.length_pos_iff.2 hne
        omega
      · rename_i hnil
        rw [not_not.1 hnil, List.length_nil]
    have hunseen := unseen_append c [r] rest
    rw [List.singleton_append] at hunseen
    rw [hunseen, List.length_append, ← ih (h.taking [r]), hone, reportAll_cons, countNew,
      List.countP_cons, hreply, Nat.add_comm]
    simp only [Reply.answer.injEq, decide_eq_true_eq]
    rfl

end Collector

end FirstSeen.Aggregate
