import FirstSeen.Text.Quoted
import FirstSeen.Text.Shown

/-!
A fault is what a unit of work reports when it fails: a text for the reader, a tag that sorts faults
of one text apart, and the causes that led to it, from the nearest to the deepest. Two faults are
equal when all three agree.
-/
namespace FirstSeen

structure Cause where
  text : String
  tag : Int
  deriving DecidableEq

structure Fault where
  text : String
  tag : Int
  causes : List Cause
  deriving DecidableEq

namespace Fault

/-- The texts met on the way from the fault to its deepest cause, the fault's own text not among
them. -/
def chain (f : Fault) : List String := f.causes.map Cause.text

def shown (f : Fault) : Text.Shown :=
  .bare ("E" ++ toString f.tag ++ "(" ++ Text.quote f.text ++ ")")

end Fault

end FirstSeen
