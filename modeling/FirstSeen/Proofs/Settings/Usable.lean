import FirstSeen.Proofs.Aggregate.Calls
import FirstSeen.Proofs.Log.Spelling
import FirstSeen.Proofs.Settings.Snapshot
import Mathlib.Data.List.TakeWhile

/-!
Which settings are usable, said without the functions that decide it, and what follows for a
collector that is made from settings. A filter has to hold something beside white space; a level has
to be spelled in one of the ways to spell a level. The filter is judged first. A collector asks for
the level alone, and refuses an unknown one in the words of the validation; so whatever comes out of
loading or of reading a document is good enough for it.
-/
namespace FirstSeen

open Aggregate (Collector Emission Report Sink)
open Log (Event Level)

namespace Text

def whiteSpace : List ℕ :=
  [0x9, 0xA, 0xB, 0xC, 0xD, 0x20, 0x85, 0xA0, 0x1680] ++ List.range' 0x2000 11 ++
    [0x2028, 0x2029, 0x202F, 0x205F, 0x3000]

theorem isBlank_iff {c : Char} : isBlank c = true ↔ c.toNat ∈ whiteSpace := by
  simp [isBlank, whiteSpace]
  omega

theorem trim_eq_nil_iff {s : List Char} : trim s = [] ↔ ∀ c ∈ s, c.toNat ∈ whiteSpace := by
  -- What trimming has taken from the front is blank anyway.
  have hstart : (∀ c ∈ trimStart s, isBlank c = true) ↔ ∀ c ∈ s, isBlank c = true := by
    conv_rhs => rw [← List.takeWhile_append_dropWhile (p := isBlank) (l := s),
      List.forall_mem_append]
    exact (and_iff_right fun c => List.mem_takeWhile_imp).symm
  rw [trim, List.reverse_eq_nil_iff, List.dropWhile_eq_nil_iff]
  simpa only [List.mem_reverse, isBlank_iff] using hstart

end Text

namespace Logging

def Usable (l : Logging) : Prop :=
  ∀ filter, l.filter = some filter → ∃ c ∈ filter.toList, c.toNat ∉ Text.whiteSpace

variable {l : Logging}

theorem usable_iff : l.Usable ↔ ∀ filter, l.filter = some filter →
    Text.trim filter.toList ≠ [] := by
  simp only [Usable, Ne, Text.trim_eq_nil_iff, not_forall, exists_prop]

theorem validate_of_usable (h : l.Usable) : l.validate = .ok () := by
  cases hfilter : l.filter with
  | none => rw [validate, hfilter]
  | some filter =>
    have htrim : Text.trim filter.toList ≠ [] := usable_iff.1 h filter hfilter
    rw [validate, hfilter]
    exact if_neg htrim

theorem validate_of_not_usable (h : ¬l.Usable) :
    l.validate = .error (.invalid "logging.filter" "must not be empty") := by
  rw [usable_iff] at h
  simp only [not_forall, not_not] at h
  obtain ⟨filter, hfilter, htrim⟩ := h
  rw [validate, hfilter]
  exact if_pos htrim

end Logging

namespace Aggregation

inductive Names : Aggregation → Level → Prop
  | absent : Names ⟨none⟩ .error
  | spelled {raw : String} {level : Level} (h : level.Spelled raw.toList) : Names ⟨some raw⟩ level

def Unknown (a : Aggregation) (raw : String) : Prop :=
  a.logLevel = some raw ∧ ∀ level, ¬a.Names level

variable {a : Aggregation} {raw : String} {level : Level}

theorem effectiveLevel_of_names (h : a.Names level) : a.effectiveLevel = .ok level := by
  cases h with
  | absent => rfl
  | spelled h => simp only [effectiveLevel, Level.read?_eq_some_iff.2 h]

theorem effectiveLevel_of_unknown (h : a.Unknown raw) :
    a.effectiveLevel = .error (unknownLevel raw) := by
  obtain ⟨hraw, hnone⟩ := h
  obtain ⟨_⟩ := a
  obtain rfl : _ = some raw := hraw
  have hread : Level.read? raw.toList = none :=
    Option.eq_none_iff_forall_ne_some.2 fun level h =>
      hnone level (.spelled (Level.read?_eq_some_iff.1 h))
  simp only [effectiveLevel, hread]

theorem names_or_unknown (a : Aggregation) : (∃ level, a.Names level) ∨ ∃ raw, a.Unknown raw := by
  by_cases h : ∃ level, a.Names level
  · exact Or.inl h
  · obtain ⟨_ | raw⟩ := a
    · exact absurd ⟨_, .absent⟩ h
    · exact Or.inr ⟨raw, rfl, not_exists.1 h⟩

theorem effectiveLevel_eq_ok_iff : a.effectiveLevel = .ok level ↔ a.Names level := by
  refine ⟨fun h => ?_, effectiveLevel_of_names⟩
  rcases a.names_or_unknown with ⟨level', h'⟩ | ⟨raw, h'⟩
  · rw [effectiveLevel_of_names h'] at h
    exact Except.ok.inj h ▸ h'
  · rw [effectiveLevel_of_unknown h'] at h
    exact absurd h nofun

theorem effectiveLevel_eq_error_iff {e : SettingsError} :
    a.effectiveLevel = .error e ↔ ∃ raw, a.Unknown raw ∧ e = unknownLevel raw := by
  constructor
  · intro h
    rcases a.names_or_unknown with ⟨level, h'⟩ | ⟨raw, h'⟩
    · rw [effectiveLevel_of_names h'] at h
      exact absurd h nofun
    · rw [effectiveLevel_of_unknown h'] at h
      exact ⟨raw, h', (Except.error.inj h).symm⟩
  · rintro ⟨raw, h, rfl⟩
    exact effectiveLevel_of_unknown h

end Aggregation

namespace Aggregate.Collector

variable {a : Aggregation}

theorem ofSettings_eq (a : Aggregation) :
    ofSettings a = a.effectiveLevel.map fun level => new (Sink.log level) := by
  rw [ofSettings]
  cases a.effectiveLevel <;> rfl

theorem ofSettings_of_names {level : Level} (h : a.Names level) :
    ofSettings a = .ok (new (Sink.log level)) := by
  rw [ofSettings_eq, Aggregation.effectiveLevel_of_names h]
  rfl

theorem ofSettings_eq_error_iff {e : SettingsError} :
    ofSettings a = .error e ↔ ∃ raw, a.Unknown raw ∧ e = Aggregation.unknownLevel raw := by
  rw [ofSettings_eq, ← Aggregation.effectiveLevel_eq_error_iff]
  cases a.effectiveLevel <;> simp [Except.map]

theorem map_level_events_log (level : Level) (rs : List Report) :
    (events ((new (Sink.log level)).reportAll rs).1).map Event.level =
      List.replicate ((new (Sink.log level)).reportAll rs).2.faultCount level := by
  rw [events_reportAll, faultCount_reportAll_new]
  generalize (new (Sink.log level)).unseen rs = emissions
  calc (emissions.flatMap (Sink.log level).events).map Event.level
      = emissions.map fun _ => level := by
        rw [List.map_flatMap, List.map_eq_flatMap]
        rfl
    _ = List.replicate emissions.length level := List.map_const' ..

end Aggregate.Collector

namespace Settings

variable {s t : Settings}

theorem validate_of_usable (h : s.logging.Usable) :
    s.validate = s.aggregation.effectiveLevel.map fun _ => () := by
  rw [validate, Logging.validate_of_usable h]
  cases s.aggregation.effectiveLevel <;> rfl

theorem validate_of_not_usable (h : ¬s.logging.Usable) :
    s.validate = .error (.invalid "logging.filter" "must not be empty") := by
  rw [validate, Logging.validate_of_not_usable h]
  rfl

theorem validate_eq_ok_iff :
    s.validate = .ok () ↔ s.logging.Usable ∧ ∃ level, s.aggregation.Names level := by
  by_cases h : s.logging.Usable
  · rw [validate_of_usable h, and_iff_right h]
    simp only [← Aggregation.effectiveLevel_eq_ok_iff]
    cases s.aggregation.effectiveLevel <;> simp [Except.map]
  · rw [validate_of_not_usable h]
    exact ⟨fun h' => absurd h' nofun, fun h' => absurd h'.1 h⟩

theorem validate_of_checked (h : s.checked = .ok t) : t.validate = .ok () := by
  cases hvalid : s.validate with
  | ok _ =>
    rw [checked, hvalid] at h
    exact Except.ok.inj h ▸ hvalid
  | error e =>
    rw [checked, hvalid] at h
    cases h

theorem validate_of_ofToml {document : String} (h : ofToml document = .ok s) :
    s.validate = .ok () := by
  unfold ofToml at h
  split at h
  · exact absurd h nofun
  · exact validate_of_checked h

theorem validate_of_load {w : World} {root : String} (h : load w root = .ok s) :
    s.validate = .ok () := by
  obtain ⟨_, _, _, _, hvalid⟩ := exists_layers_of_load h
  exact hvalid

/-- Validation accepts what is usable, tells of the filter before the level, and agrees with the
collectors that are made from the settings: they refuse the same levels in the same words, and log
each fault once, at exactly the level that is named. -/
theorem validate_agrees_with_collector (s : Settings) :
    (s.validate = .ok () ↔ s.logging.Usable ∧ ∃ level, s.aggregation.Names level) ∧
    (¬s.logging.Usable →
      s.validate = .error (.invalid "logging.filter" "must not be empty")) ∧
    ((∃ e, Collector.ofSettings s.aggregation = .error e) ↔ ∃ raw, s.aggregation.Unknown raw) ∧
    (∀ raw, s.aggregation.Unknown raw → ∃ message,
      message = "unknown level " ++ Text.quote raw ++ ", expected trace|debug|info|warn|error" ∧
      Collector.ofSettings s.aggregation = .error (.invalid "aggregator.log_level" message) ∧
      (s.logging.Usable → s.validate = .error (.invalid "aggregator.log_level" message))) ∧
    (∀ level, s.aggregation.Names level → ∃ c, Collector.ofSettings s.aggregation = .ok c ∧
      (∀ emission, ∃ event, c.sink.events emission = [event] ∧ event.level = level) ∧
      ∀ reports, (Aggregate.events (c.reportAll reports).1).map Event.level =
        List.replicate (c.reportAll reports).2.faultCount level) ∧
    ((∃ w root, load w root = .ok s) ∨ (∃ document, ofToml document = .ok s) →
      ∃ c, Collector.ofSettings s.aggregation = .ok c) := by
  refine ⟨validate_eq_ok_iff, validate_of_not_usable, ?_, ?_, ?_, ?_⟩
  · simp only [Collector.ofSettings_eq_error_iff]
    exact ⟨fun ⟨_, raw, hraw, _⟩ => ⟨raw, hraw⟩, fun ⟨raw, hraw⟩ => ⟨_, raw, hraw, rfl⟩⟩
  · intro raw hlevel
    refine ⟨_, rfl, Collector.ofSettings_eq_error_iff.2 ⟨raw, hlevel, rfl⟩, fun hfilter => ?_⟩
    rw [validate_of_usable hfilter, Aggregation.effectiveLevel_of_unknown hlevel]
    rfl
  · intro level hlevel
    refine ⟨_, Collector.ofSettings_of_names hlevel, fun emission => ⟨_, rfl, rfl⟩, ?_⟩
    exact Collector.map_level_events_log level
  · intro h
    have hvalid : s.validate = .ok () := by
      rcases h with ⟨w, root, h⟩ | ⟨document, h⟩
      · exact validate_of_load h
      · exact validate_of_ofToml h
    obtain ⟨level, hlevel⟩ := (validate_eq_ok_iff.1 hvalid).2
    exact ⟨_, Collector.ofSettings_of_names hlevel⟩

theorem validate_agrees_with_collector_three_settings :
    let blank : Settings := ⟨⟨some "\t \u2003", none, none⟩, ⟨some "loud"⟩⟩
    let padded : Settings := ⟨⟨some "sift=info", none, none⟩, ⟨some " warn"⟩⟩
    let numbered : Settings := ⟨.empty, ⟨some "+0004"⟩⟩
    let lost : Report := ⟨some ⟨"lost", 1, []⟩, "", []⟩
    let full : Report := ⟨some ⟨"full", 2, []⟩, "", []⟩
    blank.validate = .error (.invalid "logging.filter" "must not be empty") ∧
    (∃ message,
      Collector.ofSettings padded.aggregation = .error (.invalid "aggregator.log_level" message) ∧
      padded.validate = .error (.invalid "aggregator.log_level" message)) ∧
    numbered.validate = .ok () ∧ ∃ c, Collector.ofSettings numbered.aggregation = .ok c ∧
      (Aggregate.events (c.reportAll [lost, full, lost]).1).map Event.level =
        List.replicate (c.reportAll [lost, full, lost]).2.faultCount .debug := by
  intro blank padded numbered lost full
  have hblank : ¬blank.logging.Usable := by
    rw [Logging.usable_iff]
    exact fun h => h _ rfl (by decide +kernel)
  have hfilter : padded.logging.Usable :=
    Logging.usable_iff.2 fun _ h => Option.some.inj h ▸ by decide +kernel
  have hpadded : padded.aggregation.Unknown " warn" := by
    refine ⟨rfl, fun level hlevel => ?_⟩
    rw [← Aggregation.effectiveLevel_eq_ok_iff] at hlevel
    exact absurd hlevel (by cases level <;> decide +kernel)
  have hnumbered : numbered.aggregation.Names .debug :=
    Aggregation.effectiveLevel_eq_ok_iff.1 (by decide +kernel)
  obtain ⟨-, hinvalid, -⟩ := validate_agrees_with_collector blank
  obtain ⟨-, -, -, hunknown, -⟩ := validate_agrees_with_collector padded
  obtain ⟨hvalid, -, -, -, hnames, -⟩ := validate_agrees_with_collector numbered
  obtain ⟨message, -, hcollector, hvalidate⟩ := hunknown " warn" hpadded
  obtain ⟨c, hc, -, hlevels⟩ := hnames .debug hnumbered
  exact ⟨hinvalid hblank, ⟨message, hcollector, hvalidate hfilter⟩,
    hvalid.2 ⟨nofun, .debug, hnumbered⟩, c, hc, hlevels _⟩

end Settings

end FirstSeen
