import FirstSeen.Fault
import FirstSeen.Log.Event

/-!
Where a fault goes when it is met for the first time. A sink receives the fault with the message and
the context of the report that brought it; it may log events, and it may break down. Whether it
breaks down may depend on everything that it received before.
-/
namespace FirstSeen.Aggregate

open Log (Event Field Level)

structure Emission where
  fault : Fault
  message : String
  context : List Field
  deriving DecidableEq

structure Sink where
  events : Emission → List Event
  /-- Whether the sink breaks down over an emission, given the earlier ones. -/
  breaks : List Emission → Emission → Bool

namespace Sink

def log (level : Level) : Sink where
  events emission := [.fault level emission.fault.text emission.context emission.message]
  breaks _ _ := false

def silent : Sink where
  events _ := []
  breaks _ _ := false

def fragile (bad : String → Bool) : Sink where
  events _ := []
  breaks _ emission := bad emission.message

end Sink

end FirstSeen.Aggregate
