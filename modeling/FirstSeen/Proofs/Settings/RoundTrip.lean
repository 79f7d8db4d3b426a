import FirstSeen.Proofs.Toml.Sections
import FirstSeen.Settings.Document

/-!
Settings that were written as a document are read again as they were. Writing does not ask whether
the settings are usable, so reading back usable settings succeeds and reading back others fails for
the very reason for which they are not usable; that the document has the wrong shape is never the
reason.
-/
namespace FirstSeen

open Toml (Bare Entries Section Statement Value)

namespace Logging

def entries (l : Logging) : Entries :=
  Section.optional Value.text filterName l.filter
    ++ (Section.optional Value.boolean threadIdsName l.threadIds
      ++ Section.optional Value.boolean fileLinesName l.fileLines)

theorem nodup_entries (l : Logging) : l.entries.names.Nodup := by
  have hsublist : l.entries.names.Sublist
      ([filterName] ++ ([threadIdsName] ++ [fileLinesName])) := by
    rw [entries, Entries.names_append, Entries.names_append]
    exact (Section.names_optional_sublist _ _ _).append
      ((Section.names_optional_sublist _ _ _).append (Section.names_optional_sublist _ _ _))
  exact List.Nodup.sublist hsublist (by decide)

theorem reads_write (l : Logging) {s : List Char} {statements : List Statement}
    (h : Statement.Reads s statements) :
    Statement.Reads (l.write ++ s) (Section.assignments l.entries ++ statements) := by
  rw [write, entries, Section.assignments_append, Section.assignments_append]
  simp only [List.append_assoc]
  have hlines := h.writeLine (by decide : Bare fileLinesName) Toml.writtenAs_writeFlag l.fileLines
  have hids := hlines.writeLine (by decide : Bare threadIdsName) Toml.writtenAs_writeFlag
    l.threadIds
  exact hids.writeLine (by decide : Bare filterName) Toml.writtenAs_writeText l.filter

theorem ofValue_entries (l : Logging) : ofValue (.table .explicit l.entries) = .ok l := by
  obtain ⟨filter, threadIds, fileLines⟩ := l
  cases filter <;> cases threadIds <;> cases fileLines <;> rfl

theorem validate_invalid {l : Logging} {e : SettingsError}
    (h : l.validate = .error e) : ∃ field message, e = .invalid field message := by
  unfold validate at h
  split at h
  · exact absurd h nofun
  · split_ifs at h
    obtain rfl := Except.error.inj h
    exact ⟨_, _, rfl⟩

end Logging

namespace Aggregation

def entries (a : Aggregation) : Entries := Section.optional Value.text logLevelName a.logLevel

theorem nodup_entries (a : Aggregation) : a.entries.names.Nodup :=
  List.Nodup.sublist (Section.names_optional_sublist _ _ _) (by decide)

theorem reads_write (a : Aggregation) {s : List Char} {statements : List Statement}
    (h : Statement.Reads s statements) :
    Statement.Reads (a.write ++ s) (Section.assignments a.entries ++ statements) :=
  h.writeLine (by decide : Bare logLevelName) Toml.writtenAs_writeText a.logLevel

theorem ofValue_entries (a : Aggregation) : ofValue (.table .explicit a.entries) = .ok a := by
  obtain ⟨level⟩ := a
  cases level <;> rfl

theorem effectiveLevel_invalid {a : Aggregation} {e : SettingsError}
    (h : a.effectiveLevel = .error e) : ∃ field message, e = .invalid field message := by
  unfold effectiveLevel at h
  split at h
  · exact absurd h nofun
  · split at h
    · exact absurd h nofun
    · obtain rfl := Except.error.inj h
      exact ⟨_, _, rfl⟩

end Aggregation

namespace Settings

def sections (s : Settings) : List Section :=
  [(loggingName, s.logging.entries), (aggregationName, s.aggregation.entries)]

theorem reads_toToml (s : Settings) :
    Statement.Reads s.toToml.toList (s.sections.flatMap Section.statements) := by
  have haggregation := (s.aggregation.reads_write Statement.reads_nil).line
    (Statement.isLine_writeHeader (by decide : Bare aggregationName))
  have hlogging := (s.logging.reads_write haggregation.newline).line
    (Statement.isLine_writeHeader (by decide : Bare loggingName))
  simpa [toToml, sections, Section.statements] using hlogging

theorem ofEntries_sections (s : Settings) : ofEntries (s.sections.map Section.entry) = .ok s := by
  have hlogging (t : Settings) :
      t.take (loggingName, .table .explicit s.logging.entries) =
        .ok { t with logging := s.logging } := by
    rw [take, if_pos rfl, s.logging.ofValue_entries]
    rfl
  have haggregation (t : Settings) :
      t.take (aggregationName, .table .explicit s.aggregation.entries) =
        .ok { t with aggregation := s.aggregation } := by
    rw [take, if_neg (show aggregationName ≠ loggingName by decide), if_pos rfl,
      s.aggregation.ofValue_entries]
    rfl
  change (take empty _ >>= fun t => take t _ >>= pure) = _
  simp only [Section.entry, hlogging]
  change (take _ _ >>= pure) = _
  rw [haggregation]
  rfl

theorem parse_toToml (s : Settings) : parse s.toToml = .ok s := by
  have hmark : ∀ c ∈ s.toToml.toList.head?, c ≠ '\uFEFF' := by
    simp [toToml, Toml.writeHeader]
  have hentries : ∀ t ∈ s.sections, t.2.names.Nodup := by
    simp [sections, s.logging.nodup_entries, s.aggregation.nodup_entries]
  have hread : Toml.read s.toToml.toList = some (s.sections.map Section.entry) :=
    Toml.read_of_reads s.reads_toToml hmark
      (show [loggingName, aggregationName].Nodup by decide) hentries
  rw [parse, hread]
  simp only [ofEntries_sections]

theorem validate_invalid {s : Settings} {e : SettingsError}
    (h : s.validate = .error e) : ∃ field message, e = .invalid field message := by
  unfold validate at h
  cases hlogging : s.logging.validate with
  | error e' =>
    rw [hlogging] at h
    obtain rfl : e' = e := Except.error.inj h
    exact Logging.validate_invalid hlogging
  | ok _ =>
    cases hlevel : s.aggregation.effectiveLevel with
    | error e' =>
      rw [hlogging, hlevel] at h
      obtain rfl : e' = e := Except.error.inj h
      exact Aggregation.effectiveLevel_invalid hlevel
    | ok level =>
      rw [hlogging, hlevel] at h
      exact absurd h nofun

/-- Usable settings come back, and others fail as they do without being written. -/
theorem ofToml_toToml (s : Settings) :
    (s.validate = .ok () → ofToml s.toToml = .ok s) ∧
      (∀ e, s.validate = .error e →
        ofToml s.toToml = .error e ∧ ∃ field message, e = .invalid field message) ∧
      ∀ origin trouble, ofToml s.toToml ≠ .error (.parse origin trouble) := by
  have hread : ofToml s.toToml = s.checked := by
    rw [ofToml, s.parse_toToml]
  rw [hread, checked]
  refine ⟨?_, ?_, ?_⟩
  · intro h
    rw [h]
    rfl
  · intro e h
    rw [h]
    exact ⟨rfl, validate_invalid h⟩
  · intro origin trouble h
    cases hvalid : s.validate with
    | ok _ =>
      rw [hvalid] at h
      exact absurd h nofun
    | error e =>
      obtain ⟨field, message, rfl⟩ := validate_invalid hvalid
      rw [hvalid] at h
      exact absurd h nofun

theorem ofToml_toToml_quotes :
    let hard : Settings :=
      ⟨⟨some "\n'''\"\"\"\\\r\t\x00", none, some false⟩, ⟨some "WARN"⟩⟩
    let blank : Settings := ⟨⟨some " \t", some true, none⟩, Aggregation.empty⟩
    ofToml hard.toToml = .ok hard ∧
      ofToml blank.toToml = .error (.invalid "logging.filter" "must not be empty") :=
  ⟨(ofToml_toToml _).1 (by rfl), ((ofToml_toToml _).2.1 _ (by rfl)).1⟩

end Settings

end FirstSeen
