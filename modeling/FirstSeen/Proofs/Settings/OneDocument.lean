import FirstSeen.Proofs.Settings.Layers
import Mathlib.Control.Monad.Basic

/-!
One document and three ways to read it: as a text, as a project's file, and as a user's file. Where
nothing else is said, neither by another file nor by a variable, all three agree. They give the same
settings, or refuse the same setting in the same words, or find the same trouble in the document; in
the last case alone they differ, by the name that they give to the place of the document.
-/
namespace FirstSeen

namespace World

def Silent (w : World) : Prop :=
  ∀ name ∈ [filterVariable, threadIdsVariable, fileLinesVariable, logLevelVariable],
    w.variables name = .unset

def NoUserFile (w : World) : Prop := ∀ home, w.HasHome home → w.file (userFile home) = .absent

theorem NoUserFile.userHolds {w : World} (h : w.NoUserFile) : w.UserHolds .empty := by
  by_cases hhome : ∃ home, w.HasHome home
  · obtain ⟨home, hhome⟩ := hhome
    exact .file hhome (h home hhome ▸ .absent)
  · exact .homeless (not_exists.1 hhome)

end World

namespace Settings

open World (projectPath userFile)

variable {w : World} {root path document : String} {s : Settings}

/-- The same settings, the same setting refused in the same words, or trouble of a like kind with two
documents, each told under the name of its own place. -/
inductive SameAnswer (origin origin' : String) (alike : Malformed → Malformed → Prop) :
    Except SettingsError Settings → Except SettingsError Settings → Prop
  | ok (s : Settings) : SameAnswer origin origin' alike (.ok s) (.ok s)
  | invalid (field message : String) :
    SameAnswer origin origin' alike (.error (.invalid field message))
      (.error (.invalid field message))
  | parse {trouble trouble' : Malformed} (h : alike trouble trouble') :
    SameAnswer origin origin' alike (.error (.parse origin trouble))
      (.error (.parse origin' trouble'))

theorem ofEnvironment_of_silent (h : w.Silent) : ofEnvironment w = empty := by
  have hvalue : ∀ name ∈ [World.filterVariable, World.threadIdsVariable, World.fileLinesVariable,
      World.logLevelVariable], (w.variables name).value? = none := by
    intro name hname
    rw [h name hname]
    rfl
  simp only [List.forall_mem_cons] at hvalue
  obtain ⟨hfilter, hids, hlines, hlevel, -⟩ := hvalue
  simp only [ofEnvironment, hfilter, hids, hlines, hlevel]
  rfl

theorem sameAnswer_checked {origin origin' : String} {alike : Malformed → Malformed → Prop}
    (s : Settings) : SameAnswer origin origin' alike s.checked s.checked := by
  cases h : s.validate with
  | ok _ =>
    rw [checked, h]
    exact .ok s
  | error e =>
    obtain ⟨field, message, rfl⟩ := validate_invalid h
    rw [checked, h]
    exact .invalid field message

theorem ofToml_of_parse_ok (h : parse document = .ok s) : ofToml document = s.checked := by
  rw [ofToml, h]

theorem ofToml_of_parse_error {trouble : Malformed} (h : parse document = .error trouble) :
    ofToml document = .error (.parse stringOrigin trouble) := by
  rw [ofToml, h]

theorem load_of_silent {user project : Settings} (hsilent : w.Silent) (huser : w.UserHolds user)
    (hproject : (w.file (projectPath root)).Holds project) :
    load w root = (project.above user).checked := by
  rw [load_of_layers huser hproject, ofEnvironment_of_silent hsilent, empty_above]

/-- A document is read alike as a text, as the only file of a project, and as the only file of a
user. -/
theorem load_only_document (document : String) :
    (∀ (w : World) (root : String), w.Silent → w.NoUserFile →
      w.file (projectPath root) = .text document →
        SameAnswer stringOrigin (projectPath root) (· = ·) (ofToml document) (load w root)) ∧
    ∀ (w : World) (root home : String), w.Silent → w.HasHome home →
      w.file (userFile home) = .text document → w.file (projectPath root) = .absent →
        SameAnswer stringOrigin (userFile home) (· = ·) (ofToml document) (load w root) := by
  cases h : parse document with
  | error trouble =>
    rw [ofToml_of_parse_error h]
    constructor
    · intro w root _ hnone hfile
      rw [load_of_loads (.projectGarbled hnone.userHolds ⟨document, hfile, h⟩)]
      exact .parse rfl
    · intro w root home _ hhome hfile _
      rw [load_of_loads (.userGarbled hhome ⟨document, hfile, h⟩)]
      exact .parse rfl
  | ok s =>
    rw [ofToml_of_parse_ok h]
    constructor
    · intro w root hsilent hnone hfile
      have hproject : (w.file (projectPath root)).Holds s := hfile ▸ .text h
      rw [load_of_silent hsilent hnone.userHolds hproject, above_empty]
      exact sameAnswer_checked s
    · intro w root home hsilent hhome hfile habsent
      have huser : w.UserHolds s := .file hhome (hfile ▸ .text h)
      have hproject : (w.file (projectPath root)).Holds empty := habsent ▸ .absent
      rw [load_of_silent hsilent huser hproject, empty_above]
      exact sameAnswer_checked s

theorem load_only_document_mismatch :
    let document := "[aggregator]\nlog_level = 5\n"
    let w (path : String) : World :=
      { file := fun other => if other = path then .text document else .absent
        home := none
        userProfile := some "/profile"
        «variables» := fun _ => .unset }
    let trouble : Malformed := .mismatch ⟨.integer 5, .text⟩
    ofToml document = .error (.parse stringOrigin trouble) ∧
      load (w (projectPath "/work")) "/work" = .error (.parse (projectPath "/work") trouble) ∧
      load (w (userFile "/profile")) "/work" = .error (.parse (userFile "/profile") trouble) := by
  intro document w trouble
  have hdocument : ofToml document = .error (.parse stringOrigin trouble) := by decide +kernel
  have hdistinct := World.userFile_ne_projectPath
  have hproject := (load_only_document document).1 (w (projectPath "/work")) "/work"
    (fun _ _ => rfl) (fun home _ => by simp [w, hdistinct]) (by simp [w])
  have huser := (load_only_document document).2 (w (userFile "/profile")) "/work" "/profile"
    (fun _ _ => rfl) (Or.inr ⟨rfl, rfl⟩) (by simp [w]) (by simp [w, (hdistinct _ _).symm])
  rw [hdocument] at hproject huser
  generalize load (w (projectPath "/work")) "/work" = r at hproject
  generalize load (w (userFile "/profile")) "/work" = r' at huser
  obtain _ | _ | rfl := hproject
  obtain _ | _ | rfl := huser
  exact ⟨hdocument, rfl, rfl⟩

end Settings

end FirstSeen
