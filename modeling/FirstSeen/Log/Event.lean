import FirstSeen.Log.Level

/-!
The events that the library logs. There are two kinds: a fault that was met for the first time,
logged at a level of the caller's choice with the context of the report, and the outcome of a piece
of work, logged at debug level with its two counts. All events have one target. An event's fields
have names, and the message counts as a field of that name.
-/
namespace FirstSeen.Log

structure Field where
  key : String
  value : String
  deriving DecidableEq

namespace Field

def text (f : Field) : String := f.key ++ "=" ++ f.value

def textAll (fields : List Field) : String := " ".intercalate (fields.map text)

end Field

def target : String := "sift::traverse"

def errorField : String := "error"

def contextField : String := "fields"

def successesField : String := "successes"

def distinctField : String := "distinct_errors"

def messageField : String := "message"

inductive Event where
  | fault (level : Level) (error : String) (context : List Field) (message : String)
  | outcome (successes : UInt64) (distinct : Nat)
  deriving DecidableEq

namespace Event

def level : Event → Level
  | .fault level _ _ _ => level
  | .outcome _ _ => .debug

def message : Event → String
  | .fault _ _ _ message => message
  | .outcome _ _ => "aggregated outcome"

def fields : Event → List (String × String)
  | .fault _ error context _ => [(errorField, error), (contextField, Field.textAll context)]
  | .outcome successes distinct =>
    [(successesField, toString successes.toNat), (distinctField, toString distinct)]

def fieldNames (e : Event) : List String := messageField :: e.fields.map Prod.fst

end Event

end FirstSeen.Log
