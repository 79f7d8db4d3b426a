import FirstSeen.Proofs.Log.Initialisation

/-!
Faults logged by sinks of different levels. The sink's level is the only thing by which their events
differ, and it has no say in which rule of the filter decides. So where a fault is written, it is
written by every sink of a more severe level too, and the two texts have everything in common but
the level and the place in the source where the event is raised.
-/
namespace FirstSeen.Log

open Aggregate (Emission Sink)

def faultEvent (level : Level) (e : Emission) : Event :=
  .fault level e.fault.text e.context e.message

def faultLine (layout : Layout) (level : Level) (place : String) (e : Emission) : String :=
  level.column ++ " " ++ layout.threadSegment ++ Event.middle ++ layout.placeSegment place
    ++ messageText e.message ++ " error=" ++ e.fault.text ++ " fields=" ++ Field.textAll e.context

theorem line_faultEvent (layout : Layout) (level : Level) (place : String) (e : Emission) :
    (faultEvent level e).line layout place = faultLine layout level place e := by
  rw [Event.line_eq, ← String.toList_inj]
  simp [faultLine, Event.head, Event.tail, faultEvent, Event.message, Event.fields, Event.level,
    errorField, contextField, String.join]

namespace Session

theorem printed_emission (env : Variable) (place : Event → String) (first : Initialisation)
    (later : List Initialisation) (level : Level) (e : Emission) :
    (start env false).printed place (first :: later) [.emission level e] =
      if (Filter.ofText (filterText env.value? first.logging)).enables (faultEvent level e) then
        [faultLine (Layout.ofLogging first.logging) level (place (faultEvent level e)) e]
      else [] := by
  have hevents : [Activity.emission level e].flatMap Activity.events = [faultEvent level e] := rfl
  rw [printed, hevents, List.map_cons, output_start_cons]
  by_cases h : (Filter.ofText (filterText env.value? first.logging)).enables (faultEvent level e)
  · simp [h, line_faultEvent]
  · simp [h]

/-- A fault that a sink writes is written by every sink that is at least as severe. The two texts
differ in the level, and in the place in the source if that is shown. -/
theorem printed_more_severe (env : Variable) (place : Event → String) (first : Initialisation)
    (later : List Initialisation) (e : Emission) {a b : Level} (h : b.verbosity ≤ a.verbosity)
    (hprinted : (start env false).printed place (first :: later) [.emission a e] ≠ []) :
    ∀ level ∈ [a, b],
      (start env false).printed place (first :: later) [.emission level e] =
        [faultLine (Layout.ofLogging first.logging) level (place (faultEvent level e)) e] := by
  have ha : (Filter.ofText (filterText env.value? first.logging)).enables (faultEvent a e) := by
    by_contra hdisabled
    exact hprinted (by rw [printed_emission, if_neg hdisabled])
  have hb : (Filter.ofText (filterText env.value? first.logging)).enables (faultEvent b e) :=
    Filter.enables_of_le h ha
  intro level hlevel
  rw [printed_emission]
  rcases List.mem_pair.1 hlevel with rfl | rfl
  · exact if_pos ha
  · exact if_pos hb

theorem printed_more_severe_warning :
    let s := start (.text "sift=error,sift[\x7berror\x7d]=warn") false
    let place : Event → String := fun e => if e.level = .error then "sink.rs:94" else "sink.rs:93"
    let lost : Emission := ⟨⟨"lost", 1, []⟩, "step failed", [⟨"depth", "2"⟩]⟩
    let first : Initialisation := .configured ⟨some "off", some false, some true⟩
    Level.error.verbosity ≤ Level.warn.verbosity ∧
      s.printed place [first, .plain] [.emission .warn lost] =
        [" WARN sift::traverse: sink.rs:93: step failed error=lost fields=depth=2"] ∧
      s.printed place [first, .plain] [.emission .error lost] =
        ["ERROR sift::traverse: sink.rs:94: step failed error=lost fields=depth=2"] := by
  intro s place lost first
  have hle : Level.error.verbosity ≤ Level.warn.verbosity := by decide
  have hwarning : s.printed place [first, .plain] [.emission .warn lost] =
      [" WARN sift::traverse: sink.rs:93: step failed error=lost fields=depth=2"] := by
    decide +kernel
  have hall := printed_more_severe (.text "sift=error,sift[\x7berror\x7d]=warn") place first
    [.plain] lost hle (by rw [hwarning]; exact List.cons_ne_nil _ _)
  exact ⟨hle, hwarning, (hall .error (by simp)).trans (by decide +kernel)⟩

end Session

end FirstSeen.Log
