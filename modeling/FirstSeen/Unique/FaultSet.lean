import FirstSeen.Unique.Roster
import FirstSeen.Outcome

/-!
The faults of a piece of work, each text recorded once. Of several faults with one text the first
stays with its tag and causes, and the recorded faults keep the order in which their texts first
came up.
-/
namespace FirstSeen.Unique

abbrev FaultSet := Roster (KeyProc.ofFun Fault.text)

namespace FaultSet

def empty : FaultSet := Roster.withKey _ ()

def insert (s : FaultSet) (f : Fault) : Bool × FaultSet := s.push f

def add (s : FaultSet) : Option Fault → Bool × FaultSet
  | none => (false, s)
  | some f => s.insert f

def err (s : FaultSet) : Option Combined := Combined.ofList? s.toList

def intoErr (s : FaultSet) : Option Combined := Combined.ofList? s.intoItems.toList

def shown (s : FaultSet) : Text.Shown :=
  .tuple "Errors" [.sequence (s.toList.map Fault.shown)]

end FaultSet

end FirstSeen.Unique
