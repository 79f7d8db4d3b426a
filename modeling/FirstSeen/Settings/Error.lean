import FirstSeen.Decimal.Shortest
import FirstSeen.Outcome
import FirstSeen.Toml.Value

/-!
What can be wrong with settings: a file cannot be read, a text is no TOML document or holds a value
of the wrong kind, settings cannot be written, or a value makes no sense. Each error has a heading
that says where the trouble is, and then the trouble itself. Only an unreadable file has a source of
its own.
-/
namespace FirstSeen

open Toml (Value)

inductive Found where
  | integer (n : Int)
  | float (x : Decimal.Double)
  | boolean (b : Bool)
  | text (s : String)
  | sequence
  | map
  deriving DecidableEq

namespace Found

def ofValue : Value → Found
  | .text s => .text s
  | .integer n => .integer n
  | .float x => .float x
  | .boolean b => .boolean b
  | .moment _ => .map
  | .array _ => .sequence
  | .table _ _ => .map
  | .tables _ => .sequence

def accented (s : String) : String := "\x60" ++ s ++ "\x60"

def describe : Found → String
  | .integer n => "integer " ++ accented (toString n)
  | .float x => "floating point " ++ accented x.text
  | .boolean b => "boolean " ++ accented (if b then "true" else "false")
  | .text s => "string " ++ Text.quote s
  | .sequence => "sequence"
  | .map => "map"

end Found

inductive Wanted where
  | text
  | boolean
  | logging
  | aggregation
  deriving DecidableEq

def Wanted.describe : Wanted → String
  | .text => "a string"
  | .boolean => "a boolean"
  | .logging => "struct LoggingConfig"
  | .aggregation => "struct AggregatorConfig"

structure Mismatch where
  found : Found
  wanted : Wanted
  deriving DecidableEq

def Mismatch.describe (m : Mismatch) : String :=
  "invalid type: " ++ m.found.describe ++ ", expected " ++ m.wanted.describe

inductive Malformed where
  | grammar
  | mismatch (m : Mismatch)
  | described (message : String)
  deriving DecidableEq

def Malformed.describe : Malformed → String
  | .grammar => ""
  | .mismatch m => m.describe
  | .described message => message

inductive SettingsError where
  | read (path source : String)
  | parse (origin : String) (trouble : Malformed)
  | serialize (message : String)
  | invalid (field message : String)
  deriving DecidableEq

namespace SettingsError

def heading : SettingsError → String
  | .read path _ => "Cannot read config file " ++ path ++ ": "
  | .parse origin _ => "Config parse error in " ++ origin ++ ": "
  | .serialize _ => "Cannot serialize config: "
  | .invalid field _ => "Invalid value for " ++ field ++ ": "

def trouble : SettingsError → String
  | .read _ source => source
  | .parse _ trouble => trouble.describe
  | .serialize message => message
  | .invalid _ message => message

def text (e : SettingsError) : String := e.heading ++ e.trouble

def code (_ : SettingsError) : Code := .config

def coded (e : SettingsError) : String := e.code.label e.text

def chain : SettingsError → List String
  | .read _ source => [source]
  | _ => []

end SettingsError

end FirstSeen
