import FirstSeen.Proofs.Settings.Layers
import Mathlib.Logic.Function.Basic

/-!
Saving the settings in use. Whoever loads the settings of a project and saves them as the project's
file gets them back by loading again. Every setting that is present stands in the file, so the layer
below cannot bring up another value for it, and a variable that is still set says the same. A
setting that is absent was absent in every layer, so nothing comes to light where a layer is taken
away. It makes no difference whether the user's file is kept or removed, nor which variables are
unset in between.
-/
namespace FirstSeen

namespace World

def write (w : World) (path content : String) : World :=
  { w with file := Function.update w.file path (.text content) }

def remove (w : World) (path : String) : World :=
  { w with file := Function.update w.file path .absent }

def unset (w : World) (names : List String) : World :=
  { w with «variables» := fun name => if name ∈ names then .unset else w.variables name }

theorem UserHolds.write {w : World} {user : Settings} (h : w.UserHolds user)
    (root content : String) : (w.write (projectPath root) content).UserHolds user := by
  have hfile (home : String) :
      (w.write (projectPath root) content).file (userFile home) = w.file (userFile home) :=
    Function.update_of_ne (userFile_ne_projectPath home root) _ _
  cases h with
  | homeless h => exact .homeless h
  | unreadable hhome h => exact .unreadable hhome (by rwa [hfile])
  | file hhome h => exact .file hhome (by rwa [hfile])

theorem UserHolds.remove {w : World} {home : String} (hhome : w.HasHome home) :
    (w.remove (userFile home)).UserHolds .empty := by
  have hfile : (w.remove (userFile home)).file (userFile home) = .absent :=
    Function.update_self _ _ _
  exact .file hhome (hfile ▸ .absent)

theorem UserHolds.unset {w : World} {user : Settings} (h : w.UserHolds user)
    (names : List String) : (w.unset names).UserHolds user := by
  cases h with
  | homeless h => exact .homeless h
  | unreadable hhome h => exact .unreadable hhome h
  | file hhome h => exact .file hhome h

end World

namespace Settings

open World (projectPath userFile)

variable {w : World} {root : String} {user s : Settings}

theorem ofEnvironment_unset (w : World) (names : List String) :
    (ofEnvironment (w.unset names)).above (ofEnvironment w) = ofEnvironment w := by
  have hrepeat {β : Type} (read : Option String → Option β) (hread : read none = none)
      (name : String) :
      (read ((w.unset names).variables name).value? <|> read (w.variables name).value?) =
        read (w.variables name).value? := by
    by_cases h : name ∈ names <;> simp [World.unset, Variable.value?, h, hread]
  have hfilter := hrepeat id rfl World.filterVariable
  have hids := hrepeat (·.bind flag?) rfl World.threadIdsVariable
  have hlines := hrepeat (·.bind flag?) rfl World.fileLinesVariable
  have hlevel := hrepeat id rfl World.logLevelVariable
  exact congrArg₂ Settings.mk
    (by rw [Logging.mk.injEq]; exact ⟨hfilter, hids, hlines⟩)
    (congrArg Aggregation.mk hlevel)

theorem exists_layers_of_load (h : load w root = .ok s) :
    ∃ user project : Settings, w.UserHolds user ∧
      s = (ofEnvironment w).above (project.above user) ∧ s.validate = .ok () := by
  obtain ⟨r, hr⟩ := exists_loads w root
  obtain rfl : r = .ok s := (load_of_loads hr).symm.trans h
  cases hr with
  | usable huser _ henv hs hvalid =>
    rw [eq_ofEnvironment_of_sets henv] at hs
    exact ⟨_, _, huser, layered_iff.1 hs, hvalid⟩

theorem load_of_repeated (huser : w.UserHolds user) (hfile : (w.file (projectPath root)).Holds s)
    (henv : (ofEnvironment w).above s = s) (hrest : s.above user = s)
    (hvalid : s.validate = .ok ()) : load w root = .ok s := by
  rw [load_of_layers huser hfile, hrest, henv, checked, hvalid]
  rfl

/-- Saved settings are loaded again, with or without the user's file and whichever variables are
unset. -/
theorem load_saved (h : load w root = .ok s) (names : List String) :
    let saved := (w.unset names).write (projectPath root) s.toToml
    load saved root = .ok s ∧
      ∀ home, w.HasHome home → load (saved.remove (userFile home)) root = .ok s := by
  intro saved
  obtain ⟨user, project, huser, hs, hvalid⟩ := exists_layers_of_load h
  -- Both neighbours of the saved layer are part of it already, so each of them is absorbed.
  have henv : (ofEnvironment (w.unset names)).above s = s := by
    rw [hs, ← above_assoc, ofEnvironment_unset]
  have hrest : s.above user = s := by
    rw [hs, above_assoc, above_assoc, above_self]
  have hfile : saved.file (projectPath root) = .text s.toToml := Function.update_self _ _ _
  constructor
  · have huser' : saved.UserHolds user := (huser.unset names).write root s.toToml
    exact load_of_repeated huser' (hfile ▸ .text (parse_toToml s)) henv hrest hvalid
  · intro home hhome
    have hkept : (saved.remove (userFile home)).file (projectPath root) = .text s.toToml := by
      rw [← hfile]
      exact Function.update_of_ne (World.userFile_ne_projectPath home root).symm _ _
    have hgone : (saved.remove (userFile home)).UserHolds empty := World.UserHolds.remove hhome
    exact load_of_repeated hgone (hkept ▸ .text (parse_toToml s)) henv (above_empty s) hvalid

theorem load_saved_three_layers :
    let user : Settings := ⟨⟨some "user", some true, none⟩, ⟨some "info"⟩⟩
    let project : Settings := ⟨⟨some "project", some false, none⟩, Aggregation.empty⟩
    let w : World :=
      { file := fun path =>
          if path = userFile "/home" then .text user.toToml
          else if path = projectPath "/work" then .text project.toToml else .absent
        home := some "/home"
        userProfile := none
        «variables» := fun name =>
          if name = World.filterVariable then .text "env" else .unset }
    let s : Settings := ⟨⟨some "env", some false, none⟩, ⟨some "info"⟩⟩
    let saved := (w.unset [World.filterVariable]).write (projectPath "/work") s.toToml
    load w "/work" = .ok s ∧ load saved "/work" = .ok s ∧
      load (saved.remove (userFile "/home")) "/work" = .ok s := by
  intro user project w s saved
  have huser : w.UserHolds user := .file (Or.inl rfl) (.text (parse_toToml user))
  have hproject : (w.file (projectPath "/work")).Holds project := .text (parse_toToml project)
  have hs : Layered (ofEnvironment w) project user s := layered_iff.2 rfl
  have h : load w "/work" = .ok s :=
    load_of_loads (.usable huser hproject (sets_ofEnvironment w) hs rfl)
  obtain ⟨hkept, hremoved⟩ := load_saved h [World.filterVariable]
  exact ⟨h, hkept, hremoved "/home" (Or.inl rfl)⟩

end Settings

end FirstSeen
