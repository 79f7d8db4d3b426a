import FirstSeen.Settings.Document

/-!
Settings in use for a project: those of the environment, over those of the project's file, over
those of the user's file. A file that is not there counts for nothing. A user file that cannot be
read counts for nothing either, but one that can be read has to make sense; the project's file has
to be readable as well. Variables that are no text are passed over, and so is a flag that is neither
`true` nor `false`. Only the settings that come out of all layers together have to be usable.
-/
namespace FirstSeen

inductive File where
  | absent
  | directory
  | closed (reason : String)
  | undecodable
  | text (content : String)

namespace File

def ofBytes (bytes : ByteArray) : File :=
  match String.fromUTF8? bytes with
  | some content => .text content
  | none => .undecodable

def isThere : File → Bool
  | .absent => false
  | _ => true

def content : File → Except String String
  | .absent => .error "No such file or directory (os error 2)"
  | .directory => .error "Is a directory (os error 21)"
  | .closed reason => .error reason
  | .undecodable => .error "stream did not contain valid UTF-8"
  | .text content => .ok content

end File

inductive Variable where
  | unset
  | undecodable
  | text (value : String)

namespace Variable

def ofBytes (bytes : ByteArray) : Variable :=
  match String.fromUTF8? bytes with
  | some value => .text value
  | none => .undecodable

def value? : Variable → Option String
  | .text value => some value
  | _ => none

end Variable

/-- What loading depends on: the files by their paths, the two variables that may name the user's
directory, and the four variables that hold settings. -/
structure World where
  file : String → File
  home : Option String
  userProfile : Option String
  «variables» : String → Variable

namespace World

def filterVariable : String := "SIFT_LOG_FILTER"

def threadIdsVariable : String := "SIFT_LOG_THREAD_IDS"

def fileLinesVariable : String := "SIFT_LOG_FILE_LINES"

def logLevelVariable : String := "SIFT_AGGREGATOR_LOG_LEVEL"

/-- A name below a directory. The empty path stands for the current directory. -/
def below (directory name : String) : String :=
  if directory = "" then name
  else if directory.toList.getLast? = some '/' then directory ++ name
  else directory ++ "/" ++ name

def projectFileName : String := "sift.toml"

def projectPath (root : String) : String := below root projectFileName

/-- The first of the two variables that is set names the user's directory, even if it is empty. -/
def homeDirectory (w : World) : Option String := w.home <|> w.userProfile

def userPath (w : World) : Option String :=
  w.homeDirectory.map fun home => below (below home ".sift") "config.toml"

end World

namespace Settings

def ofFile (w : World) (path : String) : Except SettingsError Settings :=
  match (w.file path).content with
  | .error source => .error (.read path source)
  | .ok content =>
    match parse content with
    | .error trouble => .error (.parse path trouble)
    | .ok settings => .ok settings

def ofUser (w : World) : Except SettingsError Settings :=
  match w.userPath with
  | none => .ok empty
  | some path =>
    if (w.file path).isThere then
      match ofFile w path with
      | .error (.read _ _) => .ok empty
      | result => result
    else .ok empty

def ofProject (w : World) (root : String) : Except SettingsError Settings :=
  let path := World.projectPath root
  if (w.file path).isThere then ofFile w path else .ok empty

def flag? (s : String) : Option Bool :=
  if s = "true" then some true else if s = "false" then some false else none

def ofEnvironment (w : World) : Settings :=
  let value (name : String) : Option String := (w.variables name).value?
  ⟨⟨value World.filterVariable, (value World.threadIdsVariable).bind flag?,
      (value World.fileLinesVariable).bind flag?⟩,
    ⟨value World.logLevelVariable⟩⟩

def load (w : World) (root : String) : Except SettingsError Settings := do
  let user ← ofUser w
  let project ← ofProject w root
  ((ofEnvironment w).above (project.above user)).checked

end Settings

end FirstSeen
