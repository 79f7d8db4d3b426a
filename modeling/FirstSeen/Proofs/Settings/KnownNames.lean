import FirstSeen.Proofs.Settings.OneDocument
import FirstSeen.Proofs.Toml.DistinctNames

/-!
Only four values of a document matter for the settings that are read from it: the three settings of
the logging section and the one of the aggregator's. A section is read entry by entry, in the order
in which the entries stand, and the first value of a wrong kind decides the error; but since no name
stands twice in a table, the settings that come out, and whether any come out, depend on what a
look-up finds under the known names. A section without known names counts as one that is missing.
A document is well-formed when it can be read, whether or not its values are of the right kinds.
-/
namespace FirstSeen

open Toml (Entries Form Value)

namespace Toml

def Value.isTable : Value → Bool
  | .table _ _ => true
  | _ => false

def Value.setting? : Value → Option (String ⊕ Bool)
  | .text s => some (.inl s)
  | .boolean b => some (.inr b)
  | _ => none

def Entries.at? (entries : Entries) (outer inner : String) : Option Value :=
  match Entries.get? entries outer with
  | some (.table _ inside) => Entries.get? inside inner
  | _ => none

end Toml

theorem textOf_eq_ok_iff {v : Value} {s : String} :
    textOf v = .ok s ↔ v.setting? = some (.inl s) := by
  cases v <;> simp [textOf, Value.setting?]

theorem flagOf_eq_ok_iff {v : Value} {b : Bool} :
    flagOf v = .ok b ↔ v.setting? = some (.inr b) := by
  cases v <;> simp [flagOf, Value.setting?]

theorem Except.bind_eq_ok_iff {ε α β : Type} {x : Except ε α} {f : α → Except ε β} {b : β} :
    x >>= f = .ok b ↔ ∃ a, x = .ok a ∧ f a = .ok b := by
  cases x with
  | error e => simp [bind, Except.bind]
  | ok a => simp [bind, Except.bind]

theorem Except.map_eq_ok_iff {ε α β : Type} {x : Except ε α} {f : α → β} {b : β} :
    x.map f = .ok b ↔ ∃ a, x = .ok a ∧ f a = b := by
  cases x with
  | error e => simp [Except.map]
  | ok a => simp [Except.map]

abbrev Lookup := String → Option Value

def only (key : String) (v : Value) : Lookup := fun name => if key = name then some v else none

def Gets {α : Type} (read : Value → Except Mismatch α) : Option Value → α → α → Prop
  | none, before, after => before = after
  | some v, _, after => read v = .ok after

def readText (v : Value) : Except Mismatch (Option String) := (textOf v).map some

def readFlag (v : Value) : Except Mismatch (Option Bool) := (flagOf v).map some

theorem readText_eq_ok_congr {v w : Value} (h : v.setting? = w.setting?) (s : Option String) :
    readText v = .ok s ↔ readText w = .ok s := by
  simp only [readText, Except.map_eq_ok_iff, textOf_eq_ok_iff, h]

theorem readFlag_eq_ok_congr {v w : Value} (h : v.setting? = w.setting?) (b : Option Bool) :
    readFlag v = .ok b ↔ readFlag w = .ok b := by
  simp only [readFlag, Except.map_eq_ok_iff, flagOf_eq_ok_iff, h]

namespace Gets

variable {α : Type} {read : Value → Except Mismatch α} {before after : α}

theorem update_iff {found : Lookup} {key : String} (h : found key = none) (v : Value)
    (name : String) : Gets read (Function.update found key (some v) name) before after ↔
      ∃ mid, Gets read (only key v name) before mid ∧ Gets read (found name) mid after := by
  by_cases hkey : key = name
  · subst hkey
    simp [Gets, only, h]
  · simp [Gets, only, Function.update_of_ne (Ne.symm hkey), hkey]

theorem congr
    (hread : ∀ {v w : Value}, v.setting? = w.setting? → ∀ a, read v = .ok a ↔ read w = .ok a)
    {found found' : Option Value} (h : found.map Value.setting? = found'.map Value.setting?) :
    Gets read found before after ↔ Gets read found' before after := by
  cases found with
  | none =>
    rw [Option.map_eq_none_iff.1 h.symm]
  | some v =>
    obtain ⟨w, rfl, hw⟩ := Option.map_eq_some_iff.1 h.symm
    exact hread hw.symm after

end Gets

/-- What taking in an entry does is told by a look-up, and entries with different names do what they
do independently. -/
structure OrderFree {σ : Type} (take : σ → String × Value → Except Mismatch σ)
    (effect : Lookup → σ → σ → Prop) : Prop where
  nil : ∀ s s', effect (fun _ => none) s s' ↔ s = s'
  single : ∀ key v s s', take s (key, v) = .ok s' ↔ effect (only key v) s s'
  update : ∀ found key v s s', found key = none →
    (effect (Function.update found key (some v)) s s' ↔
      ∃ mid, effect (only key v) s mid ∧ effect found mid s')

theorem Toml.Entries.get?_cons (key : String) (v : Value) (entries : Entries) :
    Entries.get? ((key, v) :: entries) =
      Function.update (Entries.get? entries) key (some v) := by
  funext name
  by_cases h : name = key
  · simp [get?, h]
  · rw [Function.update_of_ne h, get?, List.lookup_cons, beq_false_of_ne h]
    rfl

theorem OrderFree.foldlM_eq_ok_iff {σ : Type} {take : σ → String × Value → Except Mismatch σ}
    {effect : Lookup → σ → σ → Prop} (h : OrderFree take effect) {entries : Entries}
    (hnodup : entries.names.Nodup) {s s' : σ} :
    entries.foldlM take s = .ok s' ↔ effect (Entries.get? entries) s s' := by
  induction entries generalizing s with
  | nil =>
    rw [List.foldlM_nil]
    constructor
    · intro heq
      exact (h.nil s s').2 (Except.ok.inj heq)
    · intro heq
      exact congrArg Except.ok ((h.nil s s').1 heq)
  | cons entry rest ih =>
    obtain ⟨key, v⟩ := entry
    obtain ⟨hkey, hrest⟩ := List.nodup_cons.1 hnodup
    -- `update` asks that the name of the first entry is not found among the others.
    rw [List.foldlM_cons, Entries.get?_cons, h.update _ key v s s' (Entries.get?_eq_none hkey),
      Except.bind_eq_ok_iff]
    simp only [ih hrest, h.single]

namespace Logging

def Effect (found : Lookup) (l l' : Logging) : Prop :=
  Gets readText (found filterName) l.filter l'.filter ∧
    Gets readFlag (found threadIdsName) l.threadIds l'.threadIds ∧
    Gets readFlag (found fileLinesName) l.fileLines l'.fileLines

theorem take_eq_ok_iff (key : String) (v : Value) (l l' : Logging) :
    l.take (key, v) = .ok l' ↔ Effect (only key v) l l' := by
  obtain ⟨filter, threadIds, fileLines⟩ := l
  obtain ⟨filter', threadIds', fileLines'⟩ := l'
  have hids : filterName ≠ threadIdsName := by decide
  have hlines : filterName ≠ fileLinesName := by decide
  have hdistinct : threadIdsName ≠ fileLinesName := by decide
  unfold take
  split_ifs with hkey hkey hkey
  · obtain rfl : key = filterName := hkey
    cases h : textOf v <;>
      simp [Effect, Gets, only, readText, h, hids, hlines, Except.map, bind, Except.bind,
        pure, Except.pure, ← and_assoc]
  · obtain rfl : key = threadIdsName := hkey
    cases h : flagOf v <;>
      simp [Effect, Gets, only, readFlag, h, hids.symm, hdistinct, Except.map, bind, Except.bind,
        pure, Except.pure]
  · obtain rfl : key = fileLinesName := hkey
    cases h : flagOf v <;>
      simp [Effect, Gets, only, readFlag, h, hlines.symm, hdistinct.symm, Except.map, bind,
        Except.bind, pure, Except.pure]
  · simp_all [Effect, Gets, only]

theorem orderFree : OrderFree take Effect where
  nil l l' := by
    obtain ⟨filter, threadIds, fileLines⟩ := l
    obtain ⟨filter', threadIds', fileLines'⟩ := l'
    simp [Effect, Gets]
  single := take_eq_ok_iff
  update found key v l l' h := by
    simp only [Effect, Gets.update_iff h]
    constructor
    · intro ⟨⟨filter, hfilter, hfilter'⟩, ⟨ids, hids, hids'⟩, lines, hlines, hlines'⟩
      exact ⟨⟨filter, ids, lines⟩, ⟨hfilter, hids, hlines⟩, hfilter', hids', hlines'⟩
    · intro ⟨mid, ⟨hfilter, hids, hlines⟩, hfilter', hids', hlines'⟩
      exact ⟨⟨_, hfilter, hfilter'⟩, ⟨_, hids, hids'⟩, _, hlines, hlines'⟩

theorem Effect.congr {found found' : Lookup}
    (hfilter : (found filterName).map Value.setting? = (found' filterName).map Value.setting?)
    (hids : (found threadIdsName).map Value.setting? = (found' threadIdsName).map Value.setting?)
    (hlines :
      (found fileLinesName).map Value.setting? = (found' fileLinesName).map Value.setting?)
    {l l' : Logging} : Effect found l l' ↔ Effect found' l l' := by
  rw [Effect, Effect, Gets.congr readText_eq_ok_congr hfilter, Gets.congr readFlag_eq_ok_congr hids,
    Gets.congr readFlag_eq_ok_congr hlines]

end Logging

namespace Aggregation

def Effect (found : Lookup) (a a' : Aggregation) : Prop :=
  Gets readText (found logLevelName) a.logLevel a'.logLevel

theorem take_eq_ok_iff (key : String) (v : Value) (a a' : Aggregation) :
    a.take (key, v) = .ok a' ↔ Effect (only key v) a a' := by
  obtain ⟨logLevel⟩ := a
  obtain ⟨logLevel'⟩ := a'
  unfold take
  split_ifs with hkey
  · obtain rfl : key = logLevelName := hkey
    cases h : textOf v <;>
      simp [Effect, Gets, only, readText, h, Except.map, bind, Except.bind, pure, Except.pure]
  · simp_all [Effect, Gets, only]

theorem orderFree : OrderFree take Effect where
  nil a a' := by
    obtain ⟨logLevel⟩ := a
    obtain ⟨logLevel'⟩ := a'
    simp [Effect, Gets]
  single := take_eq_ok_iff
  update found key v a a' h := by
    simp only [Effect, Gets.update_iff h]
    constructor
    · intro ⟨level, hlevel, hlevel'⟩
      exact ⟨⟨level⟩, hlevel, hlevel'⟩
    · intro ⟨mid, hlevel, hlevel'⟩
      exact ⟨mid.logLevel, hlevel, hlevel'⟩

theorem Effect.congr {found found' : Lookup}
    (h : (found logLevelName).map Value.setting? = (found' logLevelName).map Value.setting?)
    {a a' : Aggregation} : Effect found a a' ↔ Effect found' a a' :=
  Gets.congr readText_eq_ok_congr h

end Aggregation

theorem OrderFree.section_iff {σ : Type} {take : σ → String × Value → Except Mismatch σ}
    {effect : Lookup → σ → σ → Prop} (h : OrderFree take effect) {entries : Entries} {name : String}
    (hdistinct : entries.Distinct) (htable : ∀ v ∈ entries.get? name, v.isTable)
    (names : List String) (wanted : Wanted) {s s' : σ} :
    Gets (fun v => sectionOf names wanted v >>= fun es => es.foldlM take s) (entries.get? name)
      s s' ↔ effect (entries.at? name) s s' := by
  cases hfound : entries.get? name with
  | none =>
    have hnone : entries.at? name = fun _ => none := by
      funext inner
      rw [Entries.at?, hfound]
    rw [hnone, h.nil]
    exact Iff.rfl
  | some v =>
    cases v with
    | table form es =>
      have hes : entries.at? name = Entries.get? es := by
        funext inner
        rw [Entries.at?, hfound]
      rw [hes]
      exact h.foldlM_eq_ok_iff (hdistinct.get? hfound).entries.nodup
    | _ => exact absurd (htable _ hfound) Bool.false_ne_true

namespace Settings

def Effect (found : Lookup) (s s' : Settings) : Prop :=
  Gets Logging.ofValue (found loggingName) s.logging s'.logging ∧
    Gets Aggregation.ofValue (found aggregationName) s.aggregation s'.aggregation

theorem take_eq_ok_iff (key : String) (v : Value) (s s' : Settings) :
    s.take (key, v) = .ok s' ↔ Effect (only key v) s s' := by
  obtain ⟨logging, aggregation⟩ := s
  obtain ⟨logging', aggregation'⟩ := s'
  have hnames : loggingName ≠ aggregationName := by decide
  unfold take
  split_ifs with hkey hkey
  · obtain rfl : key = loggingName := hkey
    cases h : Logging.ofValue v <;>
      simp [Effect, Gets, only, h, hnames, bind, Except.bind, pure, Except.pure]
  · obtain rfl : key = aggregationName := hkey
    cases h : Aggregation.ofValue v <;>
      simp [Effect, Gets, only, h, hnames.symm, bind, Except.bind, pure, Except.pure, and_comm]
  · simp_all [Effect, Gets, only]

theorem orderFree : OrderFree take Effect where
  nil s s' := by
    obtain ⟨logging, aggregation⟩ := s
    obtain ⟨logging', aggregation'⟩ := s'
    simp [Effect, Gets]
  single := take_eq_ok_iff
  update found key v s s' h := by
    simp only [Effect, Gets.update_iff h]
    constructor
    · intro ⟨⟨logging, hlogging, hlogging'⟩, aggregation, haggregation, haggregation'⟩
      exact ⟨⟨logging, aggregation⟩, ⟨hlogging, haggregation⟩, hlogging', haggregation'⟩
    · intro ⟨mid, ⟨hlogging, haggregation⟩, hlogging', haggregation'⟩
      exact ⟨⟨_, hlogging, hlogging'⟩, _, haggregation, haggregation'⟩

def Sectioned (entries : Entries) : Prop :=
  ∀ name ∈ [loggingName, aggregationName], ∀ v ∈ entries.get? name, v.isTable

instance (entries : Entries) : Decidable (Sectioned entries) :=
  inferInstanceAs (Decidable (∀ name ∈ _, ∀ v ∈ entries.get? name, v.isTable))

def settingNames : List (String × String) :=
  [(loggingName, Logging.filterName), (loggingName, Logging.threadIdsName),
    (loggingName, Logging.fileLinesName), (aggregationName, Aggregation.logLevelName)]

/-- Under the name of each setting the two documents have the same text, the same flag, something
that no setting may hold, or nothing. -/
def AgreeAtNames (entries entries' : Entries) : Prop :=
  ∀ name ∈ settingNames, (entries.at? name.1 name.2).map Value.setting? =
    (entries'.at? name.1 name.2).map Value.setting?

instance (entries entries' : Entries) : Decidable (AgreeAtNames entries entries') :=
  inferInstanceAs (Decidable (∀ name ∈ settingNames, _))

theorem ofEntries_eq_ok_iff {entries : Entries} (hdistinct : entries.Distinct)
    (htables : Sectioned entries) {s : Settings} : ofEntries entries = .ok s ↔
      Logging.Effect (entries.at? loggingName) .empty s.logging ∧
        Aggregation.Effect (entries.at? aggregationName) .empty s.aggregation := by
  rw [ofEntries, orderFree.foldlM_eq_ok_iff hdistinct.nodup,
    ← Logging.orderFree.section_iff hdistinct (htables _ (by simp))
      [Logging.filterName, Logging.threadIdsName, Logging.fileLinesName] .logging,
    ← Aggregation.orderFree.section_iff hdistinct (htables _ (by simp))
      [Aggregation.logLevelName] .aggregation]
  exact Iff.rfl

theorem ofEntries_eq_ok_congr {entries entries' : Entries} (hdistinct : entries.Distinct)
    (hdistinct' : entries'.Distinct) (htables : Sectioned entries) (htables' : Sectioned entries')
    (hagree : AgreeAtNames entries entries') {s : Settings} :
    ofEntries entries = .ok s ↔ ofEntries entries' = .ok s := by
  rw [ofEntries_eq_ok_iff hdistinct htables, ofEntries_eq_ok_iff hdistinct' htables']
  simp only [AgreeAtNames, settingNames, List.forall_mem_cons] at hagree
  obtain ⟨hfilter, hids, hlines, hlevel, -⟩ := hagree
  rw [Logging.Effect.congr hfilter hids hlines, Aggregation.Effect.congr hlevel]

theorem parse_of_ofEntries_ok {document : String} {entries : Entries}
    (hread : Toml.read document.toList = some entries) {s : Settings}
    (h : ofEntries entries = .ok s) : parse document = .ok s := by
  rw [parse, hread]
  simp only [h]

theorem parse_of_ofEntries_error {document : String} {entries : Entries}
    (hread : Toml.read document.toList = some entries) {mismatch : Mismatch}
    (h : ofEntries entries = .error mismatch) :
    parse document = .error (.mismatch mismatch) := by
  rw [parse, hread]
  simp only [h]

end Settings

end FirstSeen
