import FirstSeen.Proofs.Toml.Sections
import Mathlib.Data.List.Nodup

/-!
A document that is read never gives a name twice. This holds of the document itself, of the tables
in it however they came about, of the tables in braces, and of those inside arrays. Every way of
changing a table keeps it: a new entry comes in only where its name is free, and an entry that is
replaced or moved keeps its name. So whatever stands under a name stands there alone, and the order
of the entries does not matter to whoever looks them up.
-/
namespace FirstSeen.Toml

inductive Value.Distinct : Value → Prop
  | text (s : String) : Distinct (.text s)
  | integer (n : Int) : Distinct (.integer n)
  | float (x : Decimal.Double) : Distinct (.float x)
  | boolean (b : Bool) : Distinct (.boolean b)
  | moment (m : Moment) : Distinct (.moment m)
  | array {items : List Value} (h : ∀ v ∈ items, Distinct v) : Distinct (.array items)
  | table {form : Form} {entries : Entries} (hnames : entries.names.Nodup)
      (h : ∀ entry ∈ entries, Distinct entry.2) : Distinct (.table form entries)
  | tables {elements : List Entries} (hnames : ∀ entries ∈ elements, entries.names.Nodup)
      (h : ∀ entries ∈ elements, ∀ entry ∈ entries, Distinct entry.2) : Distinct (.tables elements)

namespace Entries

structure Distinct (entries : Entries) : Prop where
  nodup : entries.names.Nodup
  values : ∀ entry ∈ entries, entry.2.Distinct

variable {entries : Entries} {key : String} {v : Value}

theorem distinct_nil : Distinct [] := ⟨List.nodup_nil, fun _ h => absurd h List.not_mem_nil⟩

theorem mem_of_get? (h : get? entries key = some v) : (key, v) ∈ entries := by
  induction entries with
  | nil => cases h
  | cons entry rest ih =>
    rw [get?, List.lookup_cons] at h
    split at h
    · rename_i hkey
      rw [eq_of_beq hkey, ← Option.some.inj h]
      exact List.mem_cons_self
    · exact List.mem_cons_of_mem entry (ih h)

theorem not_mem_names_of_get? (h : get? entries key = none) : key ∉ entries.names := by
  intro hmem
  obtain ⟨entry, hentry, rfl⟩ := List.mem_map.1 hmem
  have hne := List.lookup_eq_none_iff.1 h entry hentry
  simp at hne

theorem names_replace (key : String) (v : Value) (entries : Entries) :
    (replace key v entries).names = entries.names := by
  induction entries with
  | nil => rfl
  | cons entry rest ih =>
    unfold replace
    split
    · rfl
    · exact congrArg (entry.1 :: ·) ih

theorem mem_of_mem_replace {entry : String × Value} (h : entry ∈ replace key v entries) :
    entry = (key, v) ∨ entry ∈ entries := by
  induction entries with
  | nil => exact Or.inr h
  | cons other rest ih =>
    unfold replace at h
    split at h
    · rename_i hkey
      rcases List.mem_cons.1 h with rfl | h
      · exact Or.inl (by rw [hkey])
      · exact Or.inr (List.mem_cons_of_mem other h)
    · rcases List.mem_cons.1 h with rfl | h
      · exact Or.inr List.mem_cons_self
      · exact (ih h).imp_right (List.mem_cons_of_mem other)

theorem erase_sublist (key : String) (entries : Entries) : (erase key entries).Sublist entries := by
  induction entries with
  | nil => exact List.Sublist.refl _
  | cons entry rest ih =>
    unfold erase
    split
    · exact List.sublist_cons_self entry rest
    · exact ih.cons_cons entry

theorem not_mem_names_erase (h : entries.names.Nodup) : key ∉ (erase key entries).names := by
  induction entries with
  | nil => exact List.not_mem_nil
  | cons entry rest ih =>
    obtain ⟨hentry, hrest⟩ := List.nodup_cons.1 h
    unfold erase
    split
    · rename_i hkey
      exact hkey ▸ hentry
    · rename_i hkey
      rw [names, List.map_cons, List.mem_cons, not_or]
      exact ⟨Ne.symm hkey, ih hrest⟩

namespace Distinct

theorem put (h : entries.Distinct) (hkey : key ∉ entries.names) (hv : v.Distinct) :
    (put entries key v).Distinct where
  nodup := by
    rw [Entries.put, names_append, List.nodup_append]
    refine ⟨h.nodup, List.nodup_singleton key, fun name hname other hother heq => ?_⟩
    obtain rfl : other = key := List.mem_singleton.1 hother
    exact hkey (heq ▸ hname)
  values := List.forall_mem_append.2 ⟨h.values, List.forall_mem_singleton.2 hv⟩

theorem replace (h : entries.Distinct) (hv : v.Distinct) :
    (replace key v entries).Distinct where
  nodup := (names_replace key v entries).symm ▸ h.nodup
  values entry hentry := by
    rcases mem_of_mem_replace hentry with rfl | hentry
    · exact hv
    · exact h.values entry hentry

theorem erase (h : entries.Distinct) : (erase key entries).Distinct where
  nodup := List.Nodup.sublist ((erase_sublist key entries).map Prod.fst) h.nodup
  values entry hentry := h.values entry ((erase_sublist key entries).mem hentry)

theorem get? (h : entries.Distinct) (hv : get? entries key = some v) : v.Distinct :=
  h.values _ (mem_of_get? hv)

theorem table (h : entries.Distinct) (form : Form) : (Value.table form entries).Distinct :=
  .table h.nodup h.values

end Distinct

end Entries

namespace Value.Distinct

theorem entries {form : Form} {es : Entries} (h : (Value.table form es).Distinct) :
    es.Distinct := by
  cases h with
  | table hnames h => exact ⟨hnames, h⟩

theorem elements_iff {elements : List Entries} :
    (Value.tables elements).Distinct ↔ ∀ es ∈ elements, es.Distinct := by
  constructor
  · intro h
    cases h with
    | tables hnames h => exact fun es hes => ⟨hnames es hes, h es hes⟩
  · exact fun h => .tables (fun es hes => (h es hes).nodup) fun es hes => (h es hes).values

end Value.Distinct

namespace Table

def Keeps (f : Table → Option Table) : Prop :=
  ∀ t t', t.entries.Distinct → f t = some t' → t'.entries.Distinct

variable {f : Table → Option Table} {v : Value}

theorem keeps_change (hf : Keeps f) (byDots : Bool) (path : List String) :
    Keeps (change byDots f path) := by
  induction path with
  | nil => exact hf
  | cons key path ih =>
    intro t t' ht h
    rw [change.eq_def] at h
    simp only [Option.bind_eq_bind, Option.pure_def] at h
    split at h
    · rename_i hnone
      obtain ⟨inner, hinner, hnew⟩ := Option.bind_eq_some_iff.1 h
      obtain rfl := Option.some.inj hnew
      have hfresh := ih _ _ Entries.distinct_nil hinner
      exact ht.put (Entries.not_mem_names_of_get? hnone) (hfresh.table _)
    · rename_i form entries hsome
      split at h
      · cases h
      · obtain ⟨inner, hinner, hnew⟩ := Option.bind_eq_some_iff.1 h
        obtain rfl := Option.some.inj hnew
        have hentered := ih _ _ (ht.get? hsome).entries hinner
        exact ht.replace (hentered.table _)
    · rename_i elements hsome
      split at h
      · cases h
      · rename_i last hlast
        have helements := Value.Distinct.elements_iff.1 (ht.get? hsome)
        obtain ⟨inner, hinner, hnew⟩ := Option.bind_eq_some_iff.1 h
        obtain rfl := Option.some.inj hnew
        have hentered := ih _ _ (helements last (List.mem_of_getLast? hlast)) hinner
        have hkept : ∀ es ∈ elements.dropLast, Entries.Distinct es :=
          fun es hes => helements es (List.dropLast_subset _ hes)
        exact ht.replace (Value.Distinct.elements_iff.2
          (List.forall_mem_append.2 ⟨hkept, List.forall_mem_singleton.2 hentered⟩))
    · cases h

theorem keeps_put (key : String) (hv : v.Distinct) : Keeps (put key v) := by
  intro t t' ht h
  unfold put at h
  split at h
  · rename_i hnone
    obtain rfl := Option.some.inj h
    exact ht.put (Entries.not_mem_names_of_get? hnone) hv
  · cases h

theorem keeps_assign (path : List String) (key : String) (hv : v.Distinct) :
    Keeps (assign path key v) := by
  intro t t' ht h
  unfold assign at h
  split at h
  · exact keeps_put key hv t t' ht h
  · refine keeps_change (fun t t' ht h => ?_) true _ t t' ht h
    split at h
    · exact keeps_put key hv t t' ht h
    · cases h

theorem keeps_assignPath (path : List String) (hv : v.Distinct) :
    Keeps (assignPath · path v) := by
  intro t t' ht h
  unfold assignPath at h
  split at h
  · cases h
  · exact keeps_assign _ _ hv t t' ht h

theorem keeps_header (path : List String) (key : String) : Keeps (header path key) := by
  refine keeps_change (fun t t' ht h => ?_) false path
  split at h
  · rename_i hnone
    obtain rfl := Option.some.inj h
    exact ht.put (Entries.not_mem_names_of_get? hnone) (Entries.distinct_nil.table _)
  · rename_i entries hsome
    obtain rfl := Option.some.inj h
    exact ht.erase.put (Entries.not_mem_names_erase ht.nodup) ((ht.get? hsome).entries.table _)
  · cases h

theorem keeps_element (path : List String) (key : String) : Keeps (element path key) := by
  refine keeps_change (fun t t' ht h => ?_) false path
  split at h
  · rename_i hnone
    obtain rfl := Option.some.inj h
    exact ht.put (Entries.not_mem_names_of_get? hnone)
      (Value.Distinct.elements_iff.2 (List.forall_mem_singleton.2 Entries.distinct_nil))
  · rename_i elements hsome
    obtain rfl := Option.some.inj h
    have helements := Value.Distinct.elements_iff.1 (ht.get? hsome)
    exact ht.replace (Value.Distinct.elements_iff.2
      (List.forall_mem_append.2 ⟨helements, List.forall_mem_singleton.2 Entries.distinct_nil⟩))
  · cases h

end Table

def Yields {α : Type} (read : Reader α) (p : α → Prop) : Prop :=
  ∀ s a rest, read s = some (a, rest) → p a

section Readers

variable {read : Reader Value}

theorem yields_decimal (negative : Bool) : Yields (decimal negative) Value.Distinct := by
  intro s v rest h
  simp only [decimal, Option.bind_eq_bind, Option.pure_def, Option.bind_eq_some_iff] at h
  obtain ⟨⟨whole, afterWhole⟩, -, ⟨fraction, afterFraction⟩, -, ⟨power, rest'⟩, -, h⟩ := h
  split at h
  · obtain ⟨n, -, h⟩ := Option.bind_eq_some_iff.1 h
    cases h
    exact .integer n
  · obtain ⟨x, -, h⟩ := Option.bind_eq_some_iff.1 h
    cases h
    exact .float x

theorem yields_inBase (base : ℕ) : Yields (inBase base) Value.Distinct := by
  intro s v rest h
  simp only [inBase, Option.bind_eq_bind, Option.pure_def, Option.bind_eq_some_iff] at h
  obtain ⟨_, -, n, -, h⟩ := h
  cases h
  exact .integer n

theorem yields_number : Yields number Value.Distinct := by
  intro s v rest h
  unfold number at h
  split at h
  · exact yields_inBase 16 _ v rest h
  · exact yields_inBase 8 _ v rest h
  · exact yields_inBase 2 _ v rest h
  · simp only at h
    split at h
    · cases h
      exact .float _
    · cases h
      exact .float _
    · exact yields_decimal _ _ v rest h

theorem yields_scalar : Yields scalar Value.Distinct := by
  intro s v rest h
  cases s with
  | nil => cases h
  | cons c s =>
    simp only [scalar, Option.bind_eq_bind, Option.pure_def] at h
    split_ifs at h
    · obtain ⟨⟨text, _⟩, -, h⟩ := Option.bind_eq_some_iff.1 h
      cases h
      exact .text _
    · obtain ⟨⟨moment, _⟩, -, h⟩ := Option.bind_eq_some_iff.1 h
      cases h
      exact .moment moment
    · obtain ⟨⟨moment, _⟩, -, h⟩ := Option.bind_eq_some_iff.1 h
      cases h
      exact .moment moment
    · split at h
      · cases h
        exact .boolean true
      · cases h
        exact .boolean false
      · exact yields_number _ v rest h

theorem yields_arrayItems (hread : Yields read Value.Distinct) (fuel : ℕ) :
    Yields (arrayItems read fuel) fun items => ∀ v ∈ items, v.Distinct := by
  induction fuel with
  | zero => exact fun _ _ _ h => absurd h nofun
  | succ fuel ih =>
    intro s items rest h
    rw [arrayItems] at h
    split at h
    · cases h
      exact fun v hv => absurd hv List.not_mem_nil
    · simp only [Option.bind_eq_bind, Option.pure_def] at h
      obtain ⟨⟨item, _⟩, hitem, h⟩ := Option.bind_eq_some_iff.1 h
      have hfirst : item.Distinct := hread _ item _ hitem
      split at h
      · obtain ⟨⟨more, _⟩, hmore, h⟩ := Option.bind_eq_some_iff.1 h
        cases h
        exact List.forall_mem_cons.2 ⟨hfirst, ih _ more _ hmore⟩
      · cases h
        exact List.forall_mem_singleton.2 hfirst
      · cases h

theorem yields_assignment (hread : Yields read Value.Distinct) :
    Yields (assignment read) fun a => a.2.Distinct := by
  intro s a rest h
  simp only [assignment, Option.bind_eq_bind, Option.pure_def, Option.bind_eq_some_iff] at h
  obtain ⟨_, -, _, -, ⟨v, _⟩, hv, h⟩ := h
  cases h
  exact hread _ v _ hv

theorem yields_braceItems (hread : Yields read Value.Distinct) (fuel : ℕ) {t : Table}
    (ht : t.entries.Distinct) : Yields (braceItems read fuel t) (·.entries.Distinct) := by
  induction fuel generalizing t with
  | zero => exact fun _ _ _ h => absurd h nofun
  | succ fuel ih =>
    intro s t' rest h
    simp only [braceItems, Option.bind_eq_bind, Option.pure_def, Option.bind_eq_some_iff] at h
    obtain ⟨⟨⟨path, v⟩, _⟩, hassignment, next, hnext, h⟩ := h
    have hv : v.Distinct := yields_assignment hread _ _ _ hassignment
    have hkept : next.entries.Distinct := Table.keeps_assignPath path hv t next ht hnext
    split at h
    · exact ih hkept _ t' rest h
    · cases h
      exact hkept
    · cases h

theorem yields_value (depth : ℕ) : Yields (value depth) Value.Distinct := by
  induction depth with
  | zero => exact yields_scalar
  | succ depth ih =>
    intro s v rest h
    unfold value at h
    split at h
    · obtain ⟨⟨items, _⟩, hitems, h⟩ := Option.bind_eq_some_iff.1 h
      cases h
      exact .array (yields_arrayItems ih _ _ items _ hitems)
    · split at h
      · cases h
        exact Entries.distinct_nil.table _
      · obtain ⟨⟨t, _⟩, ht, h⟩ := Option.bind_eq_some_iff.1 h
        cases h
        exact (yields_braceItems ih _ Entries.distinct_nil _ t _ ht).table _
    · exact yields_scalar _ v rest h

end Readers

namespace Statement

def Distinct : Statement → Prop
  | .assign _ v => v.Distinct
  | _ => True

theorem yields_read : Yields read Distinct := by
  intro s statement rest h
  unfold read at h
  split at h
  · simp only [readElement, Option.bind_eq_bind, Option.pure_def, Option.bind_eq_some_iff] at h
    obtain ⟨_, -, _, -, _, -, _, -, h⟩ := h
    cases h
    trivial
  · simp only [readHeader, Option.bind_eq_bind, Option.pure_def, Option.bind_eq_some_iff] at h
    obtain ⟨_, -, _, -, _, -, h⟩ := h
    cases h
    trivial
  · simp only [readAssignment, Option.bind_eq_bind, Option.pure_def, Option.bind_eq_some_iff] at h
    obtain ⟨⟨⟨path, v⟩, _⟩, hassignment, _, -, h⟩ := h
    cases h
    exact yields_assignment (yields_value depthLimit) _ _ _ hassignment

theorem distinct_of_readAll {fuel : ℕ} {s : List Char} {statements : List Statement}
    (h : readAll fuel s = some statements) : ∀ statement ∈ statements, statement.Distinct := by
  induction fuel generalizing s statements with
  | zero => cases h
  | succ fuel ih =>
    rw [readAll] at h
    simp only [Option.bind_eq_bind, Option.pure_def] at h
    split at h
    · cases h
      exact fun statement hmem => absurd hmem List.not_mem_nil
    · split_ifs at h
      · obtain ⟨_, -, h⟩ := Option.bind_eq_some_iff.1 h
        exact ih h
      · obtain ⟨⟨statement, _⟩, hstatement, h⟩ := Option.bind_eq_some_iff.1 h
        obtain ⟨more, hmore, h⟩ := Option.bind_eq_some_iff.1 h
        cases h
        exact List.forall_mem_cons.2 ⟨yields_read _ statement _ hstatement, ih hmore⟩

end Statement

namespace Draft

theorem distinct_of_apply {d d' : Draft} {statement : Statement} (hd : d.root.entries.Distinct)
    (hstatement : statement.Distinct) (h : d.apply statement = some d') :
    d'.root.entries.Distinct := by
  cases statement with
  | header path =>
    simp only [apply, Option.bind_eq_bind, Option.pure_def, Option.bind_eq_some_iff] at h
    obtain ⟨key, -, root, hroot, h⟩ := h
    cases h
    exact Table.keeps_header _ key _ root hd hroot
  | element path =>
    simp only [apply, Option.bind_eq_bind, Option.pure_def, Option.bind_eq_some_iff] at h
    obtain ⟨key, -, root, hroot, h⟩ := h
    cases h
    exact Table.keeps_element _ key _ root hd hroot
  | assign path v =>
    simp only [apply, Option.bind_eq_bind, Option.pure_def, Option.bind_eq_some_iff] at h
    obtain ⟨root, hroot, h⟩ := h
    cases h
    exact Table.keeps_change (Table.keeps_assignPath path hstatement) false _ _ root hd hroot

theorem distinct_of_foldlM {statements : List Statement} {d d' : Draft}
    (hd : d.root.entries.Distinct) (hstatements : ∀ statement ∈ statements, statement.Distinct)
    (h : statements.foldlM apply d = some d') : d'.root.entries.Distinct := by
  induction statements generalizing d with
  | nil =>
    cases h
    exact hd
  | cons statement rest ih =>
    obtain ⟨hfirst, hrest⟩ := List.forall_mem_cons.1 hstatements
    rw [List.foldlM_cons] at h
    obtain ⟨next, hnext, h⟩ := Option.bind_eq_some_iff.1 h
    exact ih (distinct_of_apply hd hfirst hnext) hrest h

end Draft

/-- In a document that can be read, no table has a name twice. -/
theorem distinct_of_read {s : List Char} {entries : Entries} (h : read s = some entries) :
    entries.Distinct := by
  simp only [read, Option.bind_eq_bind, Option.pure_def, Option.bind_eq_some_iff] at h
  obtain ⟨statements, hstatements, draft, hdraft, h⟩ := h
  cases h
  exact Draft.distinct_of_foldlM Entries.distinct_nil
    (Statement.distinct_of_readAll hstatements) hdraft

end FirstSeen.Toml
