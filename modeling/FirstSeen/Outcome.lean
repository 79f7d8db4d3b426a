import FirstSeen.Fault

/-!
How a finished piece of parallel work turned out. A combined error holds the faults of the work, at
least one. If some unit of work succeeded beside them the result is partial, otherwise the work
failed; without a fault it went well. Every error has a text, a code, and the chain of texts met
when its sources are followed. A combined error has its first fault for a source; a partial result
has the combined error; a failure stands for what it holds and adds no link of its own.
-/
namespace FirstSeen

open Text (Shown)

inductive Code where
  | config
  | traverse
  | partialResult
  deriving DecidableEq

def Code.text : Code → String
  | .config => "CONFIG_ERROR"
  | .traverse => "TRAVERSE_FAILED"
  | .partialResult => "PARTIAL_FAILURE"

def Code.label (code : Code) (text : String) : String := "[" ++ code.text ++ "] " ++ text

structure Combined where
  faults : List Fault
  nonempty : faults ≠ []
  deriving DecidableEq

namespace Combined

def ofList? (faults : List Fault) : Option Combined :=
  if h : faults = [] then none else some ⟨faults, h⟩

def size (c : Combined) : Nat := c.faults.length

def first (c : Combined) : Fault := c.faults.head c.nonempty

def text (c : Combined) : String := "\n".intercalate (c.faults.map Fault.text)

def code (_ : Combined) : Code := .traverse

def chain (c : Combined) : List String := c.first.text :: c.first.chain

def shown (c : Combined) : Shown :=
  .record "CombinedError" [("errors", .sequence (c.faults.map Fault.shown))] false

theorem ofList?_eq_none_iff {faults : List Fault} : ofList? faults = none ↔ faults = [] := by
  by_cases h : faults = [] <;> simp [ofList?, h]

theorem ofList?_eq_some_iff {faults : List Fault} {c : Combined} :
    ofList? faults = some c ↔ c.faults = faults := by
  obtain ⟨fs, hne⟩ := c
  by_cases h : faults = []
  · simp [ofList?, h, hne]
  · simp [ofList?, h, eq_comm]

theorem ofList?_of_ne_nil {faults : List Fault} (h : faults ≠ []) :
    ofList? faults = some ⟨faults, h⟩ :=
  ofList?_eq_some_iff.2 rfl

end Combined

structure PartialResult where
  source : Combined
  deriving DecidableEq

namespace PartialResult

def text (p : PartialResult) : String := "partial result: " ++ p.source.text

def code (_ : PartialResult) : Code := .partialResult

def chain (p : PartialResult) : List String := p.source.text :: p.source.chain

def shown (p : PartialResult) : Shown := .record "PartialError" [("source", p.source.shown)] false

def intoCombined (p : PartialResult) : Combined := p.source

end PartialResult

inductive Failure where
  | failed (errors : Combined)
  | partially (result : PartialResult)
  deriving DecidableEq

namespace Failure

def classify (errors : Combined) (successes : UInt64) : Failure :=
  if successes = 0 then .failed errors else .partially ⟨errors⟩

def ofPartial (result : PartialResult) : Failure := .partially result

def isPartial : Failure → Bool
  | .failed _ => false
  | .partially _ => true

def combined : Failure → Combined
  | .failed errors => errors
  | .partially result => result.source

def intoCombined : Failure → Combined
  | .failed errors => errors
  | .partially result => result.intoCombined

def text : Failure → String
  | .failed errors => errors.text
  | .partially result => result.text

def code : Failure → Code
  | .failed errors => errors.code
  | .partially result => result.code

def chain : Failure → List String
  | .failed errors => errors.chain
  | .partially result => result.chain

def shown : Failure → Shown
  | .failed errors => .tuple "Failed" [errors.shown]
  | .partially result => .tuple "Partial" [result.shown]

def coded (f : Failure) : String := f.code.label f.text

theorem intoCombined_eq_combined (f : Failure) : f.intoCombined = f.combined := by
  cases f <;> rfl

theorem combined_classify (errors : Combined) (successes : UInt64) :
    (classify errors successes).combined = errors := by
  unfold classify
  split <;> rfl

theorem isPartial_classify (errors : Combined) (successes : UInt64) :
    (classify errors successes).isPartial = true ↔ successes ≠ 0 := by
  unfold classify
  split <;> simp_all [isPartial]

end Failure

/-- Anything that can be the source of something, or have one. -/
inductive Link where
  | cause (c : Cause) (deeper : List Cause)
  | fault (f : Fault)
  | combined (c : Combined)
  | partialResult (p : PartialResult)
  | failure (f : Failure)

def Link.ofCauses? : List Cause → Option Link
  | [] => none
  | c :: deeper => some (.cause c deeper)

def Combined.source? (c : Combined) : Option Link := some (.fault c.first)

def PartialResult.source? (p : PartialResult) : Option Link := some (.combined p.source)

def Failure.source? : Failure → Option Link
  | .failed errors => errors.source?
  | .partially result => result.source?

namespace Link

def text : Link → String
  | .cause c _ => c.text
  | .fault f => f.text
  | .combined c => c.text
  | .partialResult p => p.text
  | .failure f => f.text

def source? : Link → Option Link
  | .cause _ deeper => ofCauses? deeper
  | .fault f => ofCauses? f.causes
  | .combined c => c.source?
  | .partialResult p => p.source?
  | .failure f => f.source?

end Link

abbrev Outcome := Except Failure Unit

def Outcome.classify (successes : UInt64) : Option Combined → Outcome
  | none => .ok ()
  | some errors => .error (Failure.classify errors successes)

end FirstSeen
