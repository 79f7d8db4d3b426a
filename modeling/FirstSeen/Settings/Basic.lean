import FirstSeen.Log.Level
import FirstSeen.Settings.Error
import FirstSeen.Text.Blank

/-!
The settings: how to log, and at which level distinct faults are logged. Every setting may be
absent, and an absent one has a default when it is put to use. Settings are usable when the filter,
if present, holds more than white space, and the level, if present, is the name or the number of a
level; a fault of the filter is told before one of the level. Laying one layer of settings over
another lets every setting that is present above win.
-/
namespace FirstSeen

open Log (Level)
open Text (Shown)

def showOption {α : Type} (write : α → String) : Option α → Shown
  | none => .bare "None"
  | some a => .tuple "Some" [.bare (write a)]

def showFlag (b : Bool) : String := if b then "true" else "false"

structure Logging where
  filter : Option String
  threadIds : Option Bool
  fileLines : Option Bool
  deriving DecidableEq

namespace Logging

def empty : Logging := ⟨none, none, none⟩

def defaultFilter : String := "sift=info"

def effectiveFilter (l : Logging) : String := l.filter.getD defaultFilter

def effectiveThreadIds (l : Logging) : Bool := l.threadIds.getD true

def effectiveFileLines (l : Logging) : Bool := l.fileLines.getD false

def above (upper lower : Logging) : Logging :=
  ⟨upper.filter <|> lower.filter, upper.threadIds <|> lower.threadIds,
    upper.fileLines <|> lower.fileLines⟩

def shown (l : Logging) : Shown :=
  .record "LoggingConfig"
    [("filter", showOption Text.quote l.filter), ("thread_ids", showOption showFlag l.threadIds),
      ("file_lines", showOption showFlag l.fileLines)] false

def validate (l : Logging) : Except SettingsError Unit :=
  match l.filter with
  | none => .ok ()
  | some filter =>
    if Text.trim filter.toList = [] then .error (.invalid "logging.filter" "must not be empty")
    else .ok ()

end Logging

structure Aggregation where
  logLevel : Option String
  deriving DecidableEq

namespace Aggregation

def empty : Aggregation := ⟨none⟩

def defaultLevel : Level := .error

def unknownMessage (raw : String) : String :=
  "unknown level " ++ Text.quote raw ++ ", expected trace|debug|info|warn|error"

def unknownLevel (raw : String) : SettingsError :=
  .invalid "aggregator.log_level" (unknownMessage raw)

def effectiveLevel (a : Aggregation) : Except SettingsError Level :=
  match a.logLevel with
  | none => .ok defaultLevel
  | some raw =>
    match Level.read? raw.toList with
    | some level => .ok level
    | none => .error (unknownLevel raw)

def shown (a : Aggregation) : Shown :=
  .record "AggregatorConfig" [("log_level", showOption Text.quote a.logLevel)] false

def above (upper lower : Aggregation) : Aggregation := ⟨upper.logLevel <|> lower.logLevel⟩

end Aggregation

structure Settings where
  logging : Logging
  aggregation : Aggregation
  deriving DecidableEq

namespace Settings

def empty : Settings := ⟨Logging.empty, Aggregation.empty⟩

/-- Layers: what is present in `upper` wins. -/
def above (upper lower : Settings) : Settings :=
  ⟨upper.logging.above lower.logging, upper.aggregation.above lower.aggregation⟩

theorem above_assoc (a b c : Settings) : (a.above b).above c = a.above (b.above c) := by
  simp [above, Logging.above, Aggregation.above, Option.or_assoc]

theorem above_self (s : Settings) : s.above s = s := by
  simp [above, Logging.above, Aggregation.above]

theorem empty_above (s : Settings) : empty.above s = s := rfl

theorem above_empty (s : Settings) : s.above empty = s := by
  simp [above, Logging.above, Aggregation.above, empty, Logging.empty, Aggregation.empty]

def shown (s : Settings) : Shown :=
  .record "SiftConfig" [("logging", s.logging.shown), ("aggregator", s.aggregation.shown)] false

def validate (s : Settings) : Except SettingsError Unit := do
  s.logging.validate
  let _ ← s.aggregation.effectiveLevel
  return ()

def checked (s : Settings) : Except SettingsError Settings := do
  s.validate
  return s

end Settings

end FirstSeen
