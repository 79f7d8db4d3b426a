import FirstSeen.Aggregate.Guarded
import FirstSeen.Aggregate.Sink
import FirstSeen.Settings.Basic
import FirstSeen.Unique.FaultSet

/-!
A collector gathers what the workers of a piece of parallel work report. It counts successes,
records every distinct fault once and hands it to its sink at that moment, while its lock is held. A
sink that breaks down poisons the lock; but by then the findings behind it are up to date, so all
that ask for them take them from a poisoned lock too. At any time, and once more at the end, the
collector classifies what it has gathered, which logs one outcome event.
-/
namespace FirstSeen.Aggregate

open Log (Event Field Level)
open FirstSeen.Unique (FaultSet)

structure Findings where
  faults : FaultSet
  successes : UInt64

namespace Findings

def empty : Findings := ⟨FaultSet.empty, 0⟩

def report (found : Findings) : Option Fault → Bool × Findings
  | none => (false, { found with successes := found.successes + 1 })
  | some f =>
    let (isNew, faults) := found.faults.insert f
    (isNew, { found with faults })

def shown (found : Findings) : Text.Shown :=
  .record "ErrorAggregator"
    [("successes", .bare (toString found.successes.toNat)), ("errors", found.faults.shown)] true

end Findings

inductive Reply (α : Type) where
  | answer (a : α)
  | broken
  deriving DecidableEq

def Reply.map {α β : Type} (f : α → β) : Reply α → Reply β
  | .answer a => .answer (f a)
  | .broken => .broken

/-- What a call leaves behind beside the collector: its reply, what the sink received, and the
events that were logged. -/
structure Trace (α : Type) where
  reply : Reply α
  emissions : List Emission
  events : List Event

def classified (successes : UInt64) (errors : Option Combined) : Trace Outcome :=
  ⟨.answer (Outcome.classify successes errors), [],
    [.outcome successes ((errors.map Combined.size).getD 0)]⟩

structure Collector where
  sink : Sink
  state : Guarded Findings
  emitted : List Emission

namespace Collector

def new (sink : Sink) : Collector := ⟨sink, Guarded.new Findings.empty, []⟩

def findings (c : Collector) : Findings := c.state.recover

def ofSettings (a : Aggregation) : Except SettingsError Collector := do
  return new (Sink.log (← a.effectiveLevel))

/-- Hands the fault that was recorded last to the sink; the lock is held meanwhile. -/
def emit (c : Collector) (message : String) (context : List Field) : Trace Bool × Collector :=
  match c.findings.faults.items.back? with
  | none => (⟨.answer true, [], []⟩, c)
  | some fault =>
    let emission : Emission := ⟨fault, message, context⟩
    let events := c.sink.events emission
    let emitted := c.emitted ++ [emission]
    if c.sink.breaks c.emitted emission then
      (⟨.broken, [emission], events⟩, { c with state := c.state.poison, emitted })
    else (⟨.answer true, [emission], events⟩, { c with emitted })

def report (c : Collector) (fault : Option Fault) (message : String) (context : List Field) :
    Trace Bool × Collector :=
  let (isNew, findings) := c.findings.report fault
  let c := { c with state := c.state.write findings }
  if isNew then c.emit message context else (⟨.answer false, [], []⟩, c)

def success (c : Collector) : Trace Unit × Collector :=
  let (trace, c) := c.report none "" []
  (⟨trace.reply.map fun _ => (), trace.emissions, trace.events⟩, c)

def failure (c : Collector) (fault : Fault) (message : String) (context : List Field) :
    Trace Bool × Collector :=
  c.report (some fault) message context

def record {α : Type} (c : Collector) (result : Except Fault α) (message : String)
    (context : List Field) : Trace (Option α) × Collector :=
  match result with
  | .ok value =>
    let (trace, c) := c.success
    (⟨trace.reply.map fun _ => some value, trace.emissions, trace.events⟩, c)
  | .error fault =>
    let (trace, c) := c.failure fault message context
    (⟨trace.reply.map fun _ => none, trace.emissions, trace.events⟩, c)

def successCount (c : Collector) : UInt64 := c.findings.successes

def faultCount (c : Collector) : Nat := c.findings.faults.size

def finish (c : Collector) : Trace Outcome :=
  let found := c.findings
  classified found.successes found.faults.intoErr

def err (c : Collector) : Trace Outcome × Collector :=
  let found := c.findings
  (classified found.successes found.faults.err, c)

end Collector

end FirstSeen.Aggregate
