import FirstSeen.Aggregate.Run

/-!
Reports made by several workers at once. A report is atomic, so what the workers do together is some
sequence of reports, each under the number of its worker, in which every worker's own reports stand
in that worker's order. A schedule is such a sequence. The workers' reports are run in the order of
the schedule, whatever it is.
-/
namespace FirstSeen.Aggregate

open Log (Field)

structure Report where
  fault : Option Fault
  message : String
  context : List Field
  deriving DecidableEq

/-- Reports in the order in which they happen, each under the number of its worker. -/
abbrev Schedule (n : Nat) := List (Fin n × Report)

namespace Schedule

variable {n : Nat}

def worker (s : Schedule n) (i : Fin n) : List Report :=
  (s.filter fun entry => entry.1 = i).map Prod.snd

def Merges (s : Schedule n) (programs : Fin n → List Report) : Prop :=
  ∀ i, s.worker i = programs i

def inTurn (n : Nat) (program : List Report) : Schedule n :=
  (List.finRange n).flatMap fun i => program.map fun report => (i, report)

def reports (s : Schedule n) : List Report := s.map Prod.snd

end Schedule

namespace Collector

def reportAll (c : Collector) : List Report → List (Trace Bool) × Collector
  | [] => ([], c)
  | r :: rest =>
    let (trace, c) := c.report r.fault r.message r.context
    let (traces, c) := c.reportAll rest
    (trace :: traces, c)

def runSchedule {n : Nat} (c : Collector) (s : Schedule n) : List (Trace Bool) × Collector :=
  c.reportAll s.reports

end Collector

def countNew (traces : List (Trace Bool)) : Nat :=
  traces.countP fun trace => decide (trace.reply = .answer true)

end FirstSeen.Aggregate
