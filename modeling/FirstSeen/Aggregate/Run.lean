import FirstSeen.Aggregate.Collector

/-!
Whole runs of a collector. A call is one of the things that can be asked of a collector while it is
in use; a run makes calls one after the other and keeps the trace of each. A call whose sink breaks
down has no answer, and the run goes on from the state that the call left behind.
-/
namespace FirstSeen.Aggregate

open Log (Field)

inductive Call (α : Type) where
  | report (fault : Option Fault) (message : String) (context : List Field)
  | failure (fault : Fault) (message : String) (context : List Field)
  | record (result : Except Fault α) (message : String) (context : List Field)
  | success
  | successCount
  | faultCount
  | inspect
  | err

inductive Answer (α : Type) where
  | nothing
  | isNew (b : Bool)
  | value (a : Option α)
  | count (n : Nat)
  | shown (s : Text.Shown)
  | outcome (o : Outcome)

variable {α β : Type}

def Trace.map (f : α → β) (t : Trace α) : Trace β := ⟨t.reply.map f, t.emissions, t.events⟩

def Trace.pure (a : α) : Trace α := ⟨.answer a, [], []⟩

namespace Collector

def step (c : Collector) : Call α → Trace (Answer α) × Collector
  | .report fault message context =>
    let (trace, c) := c.report fault message context
    (trace.map .isNew, c)
  | .failure fault message context =>
    let (trace, c) := c.failure fault message context
    (trace.map .isNew, c)
  | .record result message context =>
    let (trace, c) := c.record result message context
    (trace.map .value, c)
  | .success =>
    let (trace, c) := c.success
    (trace.map fun _ => .nothing, c)
  | .successCount => (Trace.pure (.count c.successCount.toNat), c)
  | .faultCount => (Trace.pure (.count c.faultCount), c)
  | .inspect => (Trace.pure (.shown c.findings.shown), c)
  | .err =>
    let (trace, c) := c.err
    (trace.map .outcome, c)

def run (c : Collector) : List (Call α) → List (Trace (Answer α)) × Collector
  | [] => ([], c)
  | call :: rest =>
    let (trace, c) := c.step call
    let (traces, c) := c.run rest
    (trace :: traces, c)

theorem run_append (c : Collector) (xs ys : List (Call α)) :
    c.run (xs ++ ys) =
      ((c.run xs).1 ++ ((c.run xs).2.run ys).1, ((c.run xs).2.run ys).2) := by
  induction xs generalizing c with
  | nil => simp [run]
  | cons call rest ih => simp [run, ih]

end Collector

end FirstSeen.Aggregate
