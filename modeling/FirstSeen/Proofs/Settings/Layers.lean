import FirstSeen.Proofs.Settings.RoundTrip
import FirstSeen.Settings.Load

/-!
The rules by which a project gets its settings, apart from the order in which `load` looks things
up. A file holds settings, or is garbled, or cannot be read, and one that is not there holds none.
A garbled file of the user decides everything; failing that, the project's file has to be in order;
failing trouble with files, every setting is the first one that is present in the environment, in
the project's file, or in the user's file, and what comes out has to be usable. The rules settle
every world, and `load` follows them.
-/
namespace FirstSeen

namespace File

inductive Holds : File → Settings → Prop
  | absent : Holds .absent .empty
  | text {content : String} {s : Settings} (h : Settings.parse content = .ok s) :
    Holds (.text content) s

def Garbled (f : File) (trouble : Malformed) : Prop :=
  ∃ content, f = .text content ∧ Settings.parse content = .error trouble

def Unreadable (f : File) (reason : String) : Prop := f ≠ .absent ∧ f.content = .error reason

theorem holds_or_garbled_or_unreadable (f : File) :
    (∃ s, f.Holds s) ∨ (∃ trouble, f.Garbled trouble) ∨ ∃ reason, f.Unreadable reason := by
  cases f with
  | absent => exact Or.inl ⟨_, .absent⟩
  | directory => exact Or.inr (Or.inr ⟨_, File.noConfusion, rfl⟩)
  | closed reason => exact Or.inr (Or.inr ⟨reason, File.noConfusion, rfl⟩)
  | undecodable => exact Or.inr (Or.inr ⟨_, File.noConfusion, rfl⟩)
  | text content =>
    cases h : Settings.parse content with
    | ok s => exact Or.inl ⟨s, .text h⟩
    | error trouble => exact Or.inr (Or.inl ⟨trouble, content, rfl, h⟩)

end File

theorem Variable.value?_eq_some_iff {v : Variable} {s : String} :
    v.value? = some s ↔ v = .text s := by
  cases v <;> simp [value?]

namespace World

def HasHome (w : World) (home : String) : Prop :=
  w.home = some home ∨ w.home = none ∧ w.userProfile = some home

def userFile (home : String) : String := below (below home ".sift") "config.toml"

/-- The user's layer, in which a file that cannot be read counts for nothing. -/
inductive UserHolds (w : World) : Settings → Prop
  | homeless (h : ∀ home, ¬w.HasHome home) : UserHolds w .empty
  | unreadable {home reason : String} (hhome : w.HasHome home)
      (h : (w.file (userFile home)).Unreadable reason) : UserHolds w .empty
  | file {home : String} {s : Settings} (hhome : w.HasHome home)
      (h : (w.file (userFile home)).Holds s) : UserHolds w s

/-- A text counts however empty it is, a flag only when it is spelled exactly. -/
structure Sets (w : World) (env : Settings) : Prop where
  filter : ∀ s, env.logging.filter = some s ↔ w.variables filterVariable = .text s
  threadIds : ∀ b,
    env.logging.threadIds = some b ↔ w.variables threadIdsVariable = .text (showFlag b)
  fileLines : ∀ b,
    env.logging.fileLines = some b ↔ w.variables fileLinesVariable = .text (showFlag b)
  logLevel : ∀ s, env.aggregation.logLevel = some s ↔ w.variables logLevelVariable = .text s

theorem hasHome_iff {w : World} {home : String} :
    w.HasHome home ↔ w.homeDirectory = some home := by
  unfold HasHome homeDirectory
  cases w.home <;> simp

theorem userPath_of_hasHome {w : World} {home : String} (h : w.HasHome home) :
    w.userPath = some (userFile home) := by
  rw [userPath, hasHome_iff.1 h]
  rfl

theorem suffix_below (directory name : String) : name.toList <:+ (below directory name).toList := by
  unfold below
  split_ifs
  · exact List.suffix_refl _
  · rw [String.toList_append]
    exact List.suffix_append _ _
  · rw [String.toList_append]
    exact List.suffix_append _ _

theorem userFile_ne_projectPath (home root : String) : userFile home ≠ projectPath root := by
  intro h
  have huser : "config.toml".toList <:+ (userFile home).toList := suffix_below _ _
  have hproject : projectFileName.toList <:+ (projectPath root).toList := suffix_below _ _
  rw [h] at huser
  rcases List.suffix_or_suffix_of_suffix huser hproject with hname | hname
  · exact absurd hname (by decide)
  · exact absurd hname (by decide)

theorem userHolds_or_garbled (w : World) : (∃ s, w.UserHolds s) ∨
    ∃ home trouble, w.HasHome home ∧ (w.file (userFile home)).Garbled trouble := by
  by_cases hhome : ∃ home, w.HasHome home
  · obtain ⟨home, hhome⟩ := hhome
    rcases (w.file (userFile home)).holds_or_garbled_or_unreadable with
      ⟨s, h⟩ | ⟨trouble, h⟩ | ⟨reason, h⟩
    · exact Or.inl ⟨s, .file hhome h⟩
    · exact Or.inr ⟨home, trouble, hhome, h⟩
    · exact Or.inl ⟨_, .unreadable hhome h⟩
  · exact Or.inl ⟨_, .homeless (not_exists.1 hhome)⟩

end World

namespace Settings

open World (userFile projectPath)

variable {w : World} {root path reason : String} {trouble : Malformed} {s : Settings}

structure Layered (env project user s : Settings) : Prop where
  filter : s.logging.filter =
    [env.logging.filter, project.logging.filter, user.logging.filter].findSome? id
  threadIds : s.logging.threadIds =
    [env.logging.threadIds, project.logging.threadIds, user.logging.threadIds].findSome? id
  fileLines : s.logging.fileLines =
    [env.logging.fileLines, project.logging.fileLines, user.logging.fileLines].findSome? id
  logLevel : s.aggregation.logLevel =
    [env.aggregation.logLevel, project.aggregation.logLevel,
      user.aggregation.logLevel].findSome? id

inductive Loads (w : World) (root : String) : Except SettingsError Settings → Prop
  | userGarbled {home : String} {trouble : Malformed} (hhome : w.HasHome home)
      (h : (w.file (userFile home)).Garbled trouble) :
      Loads w root (.error (.parse (userFile home) trouble))
  | projectUnreadable {user : Settings} {reason : String} (huser : w.UserHolds user)
      (h : (w.file (projectPath root)).Unreadable reason) :
      Loads w root (.error (.read (projectPath root) reason))
  | projectGarbled {user : Settings} {trouble : Malformed} (huser : w.UserHolds user)
      (h : (w.file (projectPath root)).Garbled trouble) :
      Loads w root (.error (.parse (projectPath root) trouble))
  | usable {env project user s : Settings} (huser : w.UserHolds user)
      (hproject : (w.file (projectPath root)).Holds project) (henv : w.Sets env)
      (hs : Layered env project user s) (hvalid : s.validate = .ok ()) : Loads w root (.ok s)
  | unusable {env project user s : Settings} {e : SettingsError} (huser : w.UserHolds user)
      (hproject : (w.file (projectPath root)).Holds project) (henv : w.Sets env)
      (hs : Layered env project user s) (hinvalid : s.validate = .error e) :
      Loads w root (.error e)

theorem flag?_eq_some_iff {s : String} {b : Bool} : flag? s = some b ↔ s = showFlag b := by
  unfold flag?
  cases b <;> split_ifs <;> simp_all [showFlag]

theorem sets_ofEnvironment (w : World) : w.Sets (ofEnvironment w) := by
  constructor <;> intro v <;>
    simp [ofEnvironment, Option.bind_eq_some_iff, Variable.value?_eq_some_iff, flag?_eq_some_iff]

theorem eq_ofEnvironment_of_sets {env : Settings} (h : w.Sets env) : env = ofEnvironment w := by
  have hown := sets_ofEnvironment w
  obtain ⟨⟨filter, threadIds, fileLines⟩, ⟨logLevel⟩⟩ := env
  have hfilter : filter = _ := Option.ext fun v => (h.filter v).trans (hown.filter v).symm
  have hids : threadIds = _ := Option.ext fun b => (h.threadIds b).trans (hown.threadIds b).symm
  have hlines : fileLines = _ := Option.ext fun b => (h.fileLines b).trans (hown.fileLines b).symm
  have hlevel : logLevel = _ := Option.ext fun v => (h.logLevel v).trans (hown.logLevel v).symm
  rw [hfilter, hids, hlines, hlevel]

theorem findSome?_three {α : Type} (a b c : Option α) :
    [a, b, c].findSome? id = (a <|> (b <|> c)) := by
  cases a <;> cases b <;> cases c <;> rfl

theorem layered_iff {env project user : Settings} :
    Layered env project user s ↔ s = env.above (project.above user) := by
  constructor
  · rintro ⟨hfilter, hids, hlines, hlevel⟩
    obtain ⟨⟨filter, threadIds, fileLines⟩, ⟨logLevel⟩⟩ := s
    simp only [findSome?_three] at hfilter hids hlines hlevel
    rw [hfilter, hids, hlines, hlevel]
    rfl
  · rintro rfl
    constructor <;> exact (findSome?_three _ _ _).symm

def ofLayer (w : World) (path : String) : Except SettingsError Settings :=
  if (w.file path).isThere then ofFile w path else .ok empty

theorem ofLayer_of_holds (h : (w.file path).Holds s) : ofLayer w path = .ok s := by
  unfold ofLayer ofFile
  generalize w.file path = f at h
  cases h with
  | absent => rfl
  | text h => simp [File.isThere, File.content, h]

theorem ofLayer_of_garbled (h : (w.file path).Garbled trouble) :
    ofLayer w path = .error (.parse path trouble) := by
  obtain ⟨content, hfile, h⟩ := h
  simp [ofLayer, ofFile, hfile, File.isThere, File.content, h]

theorem ofLayer_of_unreadable (h : (w.file path).Unreadable reason) :
    ofLayer w path = .error (.read path reason) := by
  obtain ⟨hthere, h⟩ := h
  have hthere : (w.file path).isThere = true := by
    cases hfile : w.file path <;> simp_all [File.isThere]
  simp [ofLayer, ofFile, hthere, h]

theorem ofUser_of_hasHome {home : String} (hhome : w.HasHome home) :
    ofUser w = match ofLayer w (userFile home) with
      | .error (.read _ _) => .ok empty
      | result => result := by
  rw [ofUser, World.userPath_of_hasHome hhome, ofLayer]
  cases hthere : (w.file (userFile home)).isThere with
  | false => simp [hthere]
  | true =>
    cases hfile : ofFile w (userFile home) with
    | ok s => simp [hthere, hfile]
    | error e => cases e <;> simp [hthere, hfile]

theorem ofUser_of_userHolds (h : w.UserHolds s) : ofUser w = .ok s := by
  cases h with
  | homeless h =>
    have hnone : w.homeDirectory = none :=
      Option.eq_none_iff_forall_ne_some.2 fun home hhome => h home (World.hasHome_iff.2 hhome)
    rw [ofUser, World.userPath, hnone]
    rfl
  | unreadable hhome h => rw [ofUser_of_hasHome hhome, ofLayer_of_unreadable h]
  | file hhome h => rw [ofUser_of_hasHome hhome, ofLayer_of_holds h]

theorem load_of_userHolds (h : w.UserHolds s) (root : String) :
    load w root = ofLayer w (projectPath root) >>= fun project =>
      ((ofEnvironment w).above (project.above s)).checked := by
  rw [load, ofUser_of_userHolds h]
  rfl

theorem load_of_layers {user project : Settings} (huser : w.UserHolds user)
    (hproject : (w.file (projectPath root)).Holds project) :
    load w root = ((ofEnvironment w).above (project.above user)).checked := by
  rw [load_of_userHolds huser, ofLayer_of_holds hproject]
  rfl

theorem load_of_loads {r : Except SettingsError Settings} (h : Loads w root r) :
    load w root = r := by
  cases h with
  | userGarbled hhome h =>
    rw [load, ofUser_of_hasHome hhome, ofLayer_of_garbled h]
    rfl
  | projectUnreadable huser h =>
    rw [load_of_userHolds huser, ofLayer_of_unreadable h]
    rfl
  | projectGarbled huser h =>
    rw [load_of_userHolds huser, ofLayer_of_garbled h]
    rfl
  | usable huser hproject henv hs hvalid =>
    rw [load_of_layers huser hproject, ← eq_ofEnvironment_of_sets henv, ← layered_iff.1 hs, checked,
      hvalid]
    rfl
  | unusable huser hproject henv hs hinvalid =>
    rw [load_of_layers huser hproject, ← eq_ofEnvironment_of_sets henv, ← layered_iff.1 hs, checked,
      hinvalid]
    rfl

theorem exists_loads (w : World) (root : String) : ∃ r, Loads w root r := by
  rcases w.userHolds_or_garbled with ⟨user, huser⟩ | ⟨home, trouble, hhome, h⟩
  · rcases (w.file (projectPath root)).holds_or_garbled_or_unreadable with
      ⟨project, hproject⟩ | ⟨trouble, h⟩ | ⟨reason, h⟩
    · have hs : Layered (ofEnvironment w) project user _ := layered_iff.2 rfl
      cases hvalid : ((ofEnvironment w).above (project.above user)).validate with
      | ok _ => exact ⟨_, .usable huser hproject (sets_ofEnvironment w) hs hvalid⟩
      | error e => exact ⟨_, .unusable huser hproject (sets_ofEnvironment w) hs hvalid⟩
    · exact ⟨_, .projectGarbled huser h⟩
    · exact ⟨_, .projectUnreadable huser h⟩
  · exact ⟨_, .userGarbled hhome h⟩

/-- Loading gives what the rules give, and nothing else. -/
theorem load_eq_iff_loads (w : World) (root : String) (r : Except SettingsError Settings) :
    load w root = r ↔ Loads w root r := by
  constructor
  · -- Some rule applies, and whatever a rule gives is what loading gives.
    rintro rfl
    obtain ⟨r, h⟩ := exists_loads w root
    exact (load_of_loads h).symm ▸ h
  · exact load_of_loads

theorem load_eq_iff_loads_three_layers :
    let user : Settings := ⟨⟨some "user", some true, some true⟩, ⟨some "info"⟩⟩
    let project : Settings := ⟨⟨some "project", some false, none⟩, Aggregation.empty⟩
    let w : World :=
      { file := fun path =>
          if path = "/home/.sift/config.toml" then .text user.toToml
          else if path = "/work/sift.toml" then .text project.toToml else .absent
        home := some "/home"
        userProfile := some "/profile"
        «variables» := fun name =>
          if name = World.filterVariable then .text "env"
          else if name = World.threadIdsVariable then .text "True"
          else if name = World.fileLinesVariable then .undecodable else .unset }
    load w "/work" = .ok ⟨⟨some "env", some false, some true⟩, ⟨some "info"⟩⟩ := by
  intro user project w
  have huser : w.UserHolds user := .file (Or.inl rfl) (.text (parse_toToml user))
  have hproject : (w.file (projectPath "/work")).Holds project := .text (parse_toToml project)
  have hs : Layered (ofEnvironment w) project user _ := layered_iff.2 rfl
  exact (load_eq_iff_loads w "/work" _).2
    (.usable huser hproject (sets_ofEnvironment w) hs rfl)

end Settings

end FirstSeen
