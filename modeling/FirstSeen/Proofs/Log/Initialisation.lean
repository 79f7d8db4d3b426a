import FirstSeen.Aggregate.Collector
import FirstSeen.Log.Session
import FirstSeen.Proofs.Log.Decisive

/-!
What a program writes that initialises logging any number of times and then works. The first
initialisation counts and no other, and not even the first where a listener was there before it.
Which events are written is settled by the filter text that the first initialisation finds; how much
of each line is written is settled by its two flags, and these have no say in the former.
-/
namespace FirstSeen.Log

open Aggregate (Collector Emission Sink)

inductive Initialisation where
  | plain
  | configured (logging : Logging)

def Initialisation.logging : Initialisation → Logging
  | .plain => Logging.empty
  | .configured logging => logging

inductive Activity where
  | emission (level : Level) (e : Emission)
  | finish (c : Collector)

def Activity.events : Activity → List Event
  | .emission level e => (Sink.log level).events e
  | .finish c => c.finish.events

namespace Layout

def ofLogging (logging : Logging) : Layout :=
  ⟨logging.effectiveThreadIds, logging.effectiveFileLines⟩

def threadSegment (layout : Layout) : String := if layout.threadIds then threadColumn else ""

def placeSegment (layout : Layout) (place : String) : String :=
  if layout.fileLines then place ++ ": " else ""

end Layout

namespace Event

def head (e : Event) : String := e.level.column ++ " "

def middle : String := target ++ ": "

def tail (e : Event) : String :=
  messageText e.message
    ++ String.join (e.fields.map fun (name, value) => " " ++ name ++ "=" ++ value)

theorem line_eq (layout : Layout) (place : String) (e : Event) :
    e.line layout place =
      e.head ++ layout.threadSegment ++ middle ++ layout.placeSegment place ++ e.tail := by
  simp [line, head, Layout.threadSegment, middle, Layout.placeSegment, tail, String.append_assoc]

end Event

theorem filterText_congr {a b : Logging} (env : Option String) (h : a.filter = b.filter) :
    filterText env a = filterText env b := by
  unfold filterText Logging.effectiveFilter
  rw [h]

namespace Session

variable {s : Session} {place : Event → String}

def printed (s : Session) (place : Event → String) (calls : List Initialisation)
    (activities : List Activity) : List String :=
  s.output place (calls.map Initialisation.logging) (activities.flatMap Activity.events)

theorem foldl_initialise_of_listener {l : Listener} (h : s.listener = some l)
    (calls : List Logging) : calls.foldl initialise s = s := by
  induction calls with
  | nil => rfl
  | cons logging rest ih => rw [List.foldl_cons, initialise_of_listener h, ih]

theorem output_of_own {filter : Filter} {layout : Layout}
    (h : s.listener = some (.own filter layout)) (calls : List Logging) (events : List Event) :
    s.output place calls events =
      (events.filter filter.enables).map fun e => e.line layout (place e) := by
  rw [output, foldl_initialise_of_listener h]
  induction events with
  | nil => rfl
  | cons e rest ih => by_cases he : filter.enables e = true <;> simp [text?, h, he, ih]

theorem output_start_eq_nil (env : Variable) {hasListener : Bool} {calls : List Logging}
    (h : calls = [] ∨ hasListener = true) (events : List Event) :
    (start env hasListener).output place calls events = [] := by
  have hlistener : (calls.foldl initialise (start env hasListener)).listener = none ∨
      (calls.foldl initialise (start env hasListener)).listener = some .foreign := by
    rcases h with rfl | rfl
    · cases hasListener <;> simp [start]
    · rw [foldl_initialise_of_listener (l := .foreign) rfl]
      exact Or.inr rfl
  refine List.filterMap_eq_nil_iff.2 fun e _ => ?_
  rcases hlistener with h | h <;> simp [text?, h]

theorem output_start_cons (env : Variable) (place : Event → String) (first : Logging)
    (later : List Logging) (events : List Event) :
    (start env false).output place (first :: later) events =
      (events.filter (Filter.ofText (filterText env.value? first)).enables).map fun e =>
        e.line (Layout.ofLogging first) (place e) :=
  output_of_own (s := (start env false).initialise first) rfl later events

end Session

end FirstSeen.Log
