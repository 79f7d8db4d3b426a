import FirstSeen.Proofs.Settings.OneDocument
import FirstSeen.Proofs.Settings.Usable
import FirstSeen.Proofs.Text.Quotation

/-!
What is told about a level that is none. It makes no difference where the level was given, to a
collector, in settings that are validated, in a document, or in any of the layers that loading looks
through: once it is the level that counts, the same error is told everywhere. The level stands in
the message as a quotation. So nobody who may set a level can put a line of their own into the
message, and the message tells exactly which text it was.
-/
namespace FirstSeen

open Aggregate (Collector)

namespace Aggregation

variable {raw raw' : String}

theorem unknownMessage_inj : unknownMessage raw = unknownMessage raw' ↔ raw = raw' := by
  unfold unknownMessage
  rw [String.append_left_inj, String.append_right_inj, Text.quote_inj]

theorem not_isControl_unknownMessage (raw : String) :
    ∀ c ∈ (unknownMessage raw).toList, ¬Text.IsControl c := by
  unfold unknownMessage
  rw [String.toList_append, String.toList_append, List.forall_mem_append, List.forall_mem_append]
  exact ⟨⟨Text.not_isControl_of_all rfl, Text.not_isControl_quote raw⟩,
    Text.not_isControl_of_all rfl⟩

theorem unknown_of_effectiveLevel {e : SettingsError}
    (h : effectiveLevel ⟨some raw⟩ = .error e) : Unknown ⟨some raw⟩ raw := by
  obtain ⟨raw', hunknown, -⟩ := effectiveLevel_eq_error_iff.1 h
  obtain rfl : raw = raw' := Option.some.inj hunknown.1
  exact hunknown

end Aggregation

namespace Settings

open World (projectPath)

/-- The level that counts is given as `raw`, and this comes of asking for it. Files that are not in
order, and a filter that is of no use, are told of first. -/
inductive Asked (raw : String) : {α : Type} → Except SettingsError α → Prop
  | level {a : Aggregation} (given : a.logLevel = some raw) : Asked raw a.effectiveLevel
  | collector {a : Aggregation} (given : a.logLevel = some raw) :
    Asked raw (Collector.ofSettings a)
  | settings {s : Settings} (usable : s.logging.Usable)
    (given : s.aggregation.logLevel = some raw) : Asked raw s.validate
  | document {document : String} {s : Settings} (parsed : parse document = .ok s)
    (usable : s.logging.Usable) (given : s.aggregation.logLevel = some raw) :
    Asked raw (ofToml document)
  | loaded {w : World} {root : String} {env project user s : Settings} (huser : w.UserHolds user)
    (hproject : (w.file (projectPath root)).Holds project) (henv : w.Sets env)
    (hs : Layered env project user s) (usable : s.logging.Usable)
    (given : s.aggregation.logLevel = some raw) : Asked raw (load w root)

variable {raw : String}

theorem effectiveLevel_of_given {a : Aggregation} {e : SettingsError}
    (h : Aggregation.effectiveLevel ⟨some raw⟩ = .error e) (given : a.logLevel = some raw) :
    a.effectiveLevel = .error (Aggregation.unknownLevel raw) := by
  obtain ⟨_⟩ := a
  obtain rfl : _ = some raw := given
  exact Aggregation.effectiveLevel_of_unknown (Aggregation.unknown_of_effectiveLevel h)

theorem validate_of_given {s : Settings} {e : SettingsError}
    (h : Aggregation.effectiveLevel ⟨some raw⟩ = .error e) (usable : s.logging.Usable)
    (given : s.aggregation.logLevel = some raw) :
    s.validate = .error (Aggregation.unknownLevel raw) := by
  rw [validate_of_usable usable, effectiveLevel_of_given h given]
  rfl

theorem Asked.eq_unknownLevel {α : Type} {r : Except SettingsError α} {e : SettingsError}
    (hr : Asked raw r) (h : Aggregation.effectiveLevel ⟨some raw⟩ = .error e) :
    r = .error (.invalid "aggregator.log_level" (Aggregation.unknownMessage raw)) := by
  cases hr with
  | level given => exact effectiveLevel_of_given h given
  | collector given =>
    rw [Collector.ofSettings_eq, effectiveLevel_of_given h given]
    rfl
  | settings usable given => exact validate_of_given h usable given
  | document parsed usable given =>
    rw [ofToml_of_parse_ok parsed, checked, validate_of_given h usable given]
    rfl
  | loaded huser hproject henv hs usable given =>
    exact load_of_loads (.unusable huser hproject henv hs (validate_of_given h usable given))

/-- Wherever a text that is no level was given, the error about it has a message without control
characters, and two such messages are equal exactly if the texts are. -/
theorem asked_unknown_level {α β : Type} {raw raw' : String} {r : Except SettingsError α}
    {r' : Except SettingsError β} {e e' : SettingsError}
    (h : Aggregation.effectiveLevel ⟨some raw⟩ = .error e)
    (h' : Aggregation.effectiveLevel ⟨some raw'⟩ = .error e') (hr : Asked raw r)
    (hr' : Asked raw' r') :
    ∃ message message', r = .error (.invalid "aggregator.log_level" message) ∧
      r' = .error (.invalid "aggregator.log_level" message') ∧
      (∀ c ∈ message.toList ++ message'.toList, ¬Text.IsControl c) ∧
      (message = message' ↔ raw = raw') :=
  ⟨_, _, hr.eq_unknownLevel h, hr'.eq_unknownLevel h',
    List.forall_mem_append.2 ⟨Aggregation.not_isControl_unknownMessage raw,
      Aggregation.not_isControl_unknownMessage raw'⟩, Aggregation.unknownMessage_inj⟩

theorem asked_unknown_level_line_feed :
    let raw := "lou\nd"
    let raw' := "lou\\nd"
    let w : World :=
      { file := fun _ => .absent
        home := none
        userProfile := none
        «variables» := fun name => if name = World.logLevelVariable then .text raw else .unset }
    let s' : Settings := ⟨Logging.empty, ⟨some raw'⟩⟩
    ∃ message message', load w "/work" = .error (.invalid "aggregator.log_level" message) ∧
      ofToml s'.toToml = .error (.invalid "aggregator.log_level" message') ∧
      (∀ c ∈ message.toList ++ message'.toList, ¬Text.IsControl c) ∧ message ≠ message' := by
  intro raw raw' w s'
  have huser : w.UserHolds empty := .homeless nofun
  have hproject : (w.file (projectPath "/work")).Holds empty := .absent
  have hs : Layered (ofEnvironment w) empty empty ⟨Logging.empty, ⟨some raw⟩⟩ := layered_iff.2 rfl
  have hr : Asked raw (load w "/work") :=
    .loaded huser hproject (sets_ofEnvironment w) hs nofun rfl
  have hr' : Asked raw' (ofToml s'.toToml) := .document (parse_toToml s') nofun rfl
  have h : Aggregation.effectiveLevel ⟨some raw⟩ = .error (Aggregation.unknownLevel raw) := by
    decide +kernel
  have h' : Aggregation.effectiveLevel ⟨some raw'⟩ = .error (Aggregation.unknownLevel raw') := by
    decide +kernel
  obtain ⟨message, message', hload, hdocument, hplain, hinj⟩ := asked_unknown_level h h' hr hr'
  exact ⟨message, message', hload, hdocument, hplain, fun heq => absurd (hinj.1 heq) (by decide)⟩

end Settings

end FirstSeen
