import FirstSeen.Settings.Basic
import FirstSeen.Toml.Document
import FirstSeen.Toml.Writer

/-!
Settings as a TOML document. The document has two sections, each of which may be missing; entries
with other names do not matter. A section may be a table, whose entries are taken in the order in
which they stand; an array, whose items are the settings of the section in their usual order; or a
date or time, which holds no setting. The first value of a wrong kind decides the error. Written
out, absent settings are left out.
-/
namespace FirstSeen

open Toml (Value Entries)

def textOf : Value → Except Mismatch String
  | .text s => .ok s
  | v => .error ⟨Found.ofValue v, .text⟩

def flagOf : Value → Except Mismatch Bool
  | .boolean b => .ok b
  | v => .error ⟨Found.ofValue v, .boolean⟩

def sectionOf (names : List String) (wanted : Wanted) : Value → Except Mismatch Entries
  | .table _ entries => .ok entries
  | .array items => .ok (names.zip items)
  | .tables elements => .ok (names.zip (elements.map (.table .explicit)))
  | .moment _ => .ok []
  | v => .error ⟨Found.ofValue v, wanted⟩

namespace Logging

def filterName : String := "filter"

def threadIdsName : String := "thread_ids"

def fileLinesName : String := "file_lines"

def take (l : Logging) (entry : String × Value) : Except Mismatch Logging :=
  if entry.1 = filterName then do return { l with filter := some (← textOf entry.2) }
  else if entry.1 = threadIdsName then do return { l with threadIds := some (← flagOf entry.2) }
  else if entry.1 = fileLinesName then do return { l with fileLines := some (← flagOf entry.2) }
  else .ok l

def ofValue (v : Value) : Except Mismatch Logging := do
  let entries ← sectionOf [filterName, threadIdsName, fileLinesName] .logging v
  entries.foldlM take empty

def write (l : Logging) : List Char :=
  Toml.writeLine (fun s : String => Toml.writeText s.toList) filterName l.filter
    ++ Toml.writeLine Toml.writeFlag threadIdsName l.threadIds
    ++ Toml.writeLine Toml.writeFlag fileLinesName l.fileLines

end Logging

namespace Aggregation

def logLevelName : String := "log_level"

def take (a : Aggregation) (entry : String × Value) : Except Mismatch Aggregation :=
  if entry.1 = logLevelName then do return { a with logLevel := some (← textOf entry.2) }
  else .ok a

def ofValue (v : Value) : Except Mismatch Aggregation := do
  let entries ← sectionOf [logLevelName] .aggregation v
  entries.foldlM take empty

def write (a : Aggregation) : List Char :=
  Toml.writeLine (fun s : String => Toml.writeText s.toList) logLevelName a.logLevel

end Aggregation

namespace Settings

def loggingName : String := "logging"

def aggregationName : String := "aggregator"

def take (s : Settings) (entry : String × Value) : Except Mismatch Settings :=
  if entry.1 = loggingName then do return { s with logging := ← Logging.ofValue entry.2 }
  else if entry.1 = aggregationName then do
    return { s with aggregation := ← Aggregation.ofValue entry.2 }
  else .ok s

def ofEntries (entries : Entries) : Except Mismatch Settings := entries.foldlM take empty

/-- Reads settings, which need not be usable. -/
def parse (document : String) : Except Malformed Settings :=
  match Toml.read document.toList with
  | none => .error .grammar
  | some entries =>
    match ofEntries entries with
    | .ok settings => .ok settings
    | .error mismatch => .error (.mismatch mismatch)

def stringOrigin : String := "<string>"

def ofToml (document : String) : Except SettingsError Settings :=
  match parse document with
  | .error trouble => .error (.parse stringOrigin trouble)
  | .ok settings => settings.checked

def toToml (s : Settings) : String :=
  String.ofList (Toml.writeHeader loggingName ++ s.logging.write ++ ['\n']
    ++ Toml.writeHeader aggregationName ++ s.aggregation.write)

end Settings

end FirstSeen
