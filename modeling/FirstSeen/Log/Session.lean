import FirstSeen.Log.Filter
import FirstSeen.Log.Line
import FirstSeen.Settings.Load

/-!
Logging in a running program. Whoever comes first decides who listens to events: the program itself,
by a listener of its own that writes nothing here, or the first initialisation, with the filter and
the layout that its settings give at that moment. Every later initialisation does nothing, and
without a listener nothing is written.
-/
namespace FirstSeen.Log

inductive Listener where
  | foreign
  | own (filter : Filter) (layout : Layout)

structure Session where
  env : Option String
  listener : Option Listener

namespace Session

def envName : String := "SIFT_LOG"

def start (env : Variable) (hasListener : Bool) : Session :=
  ⟨env.value?, if hasListener then some .foreign else none⟩

def initialise (s : Session) (logging : Logging) : Session :=
  match s.listener with
  | some _ => s
  | none =>
    let filter := Filter.ofText (filterText s.env logging)
    let layout : Layout := ⟨logging.effectiveThreadIds, logging.effectiveFileLines⟩
    { s with listener := some (.own filter layout) }

def text? (s : Session) (place : Event → String) (e : Event) : Option String :=
  match s.listener with
  | some (.own filter layout) =>
    if filter.enables e then some (e.line layout (place e)) else none
  | _ => none

/-- What a program writes that initialises logging some number of times and then raises events, one
text for each event that passes. -/
def output (s : Session) (place : Event → String) (calls : List Logging) (events : List Event) :
    List String :=
  events.filterMap ((calls.foldl initialise s).text? place)

def lines (s : Session) (place : Event → String) (calls : List Logging) (events : List Event) :
    List String :=
  (s.output place calls events).flatMap Text.lines

theorem initialise_of_listener {s : Session} {l : Listener} (h : s.listener = some l)
    (logging : Logging) : s.initialise logging = s := by
  simp [initialise, h]

end Session

end FirstSeen.Log
