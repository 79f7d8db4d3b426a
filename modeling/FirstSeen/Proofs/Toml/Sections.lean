import FirstSeen.Proofs.Toml.QuotedText
import FirstSeen.Toml.Document
import Mathlib.Logic.Basic

/-!
Reading back a document of sections: headers of one bare name each, and under each header lines that
give bare names their values. The statements are read off line by line, however much fuel there is
to spare. Carrying them out gives the tables of the sections in their order, each with its entries
in their order, provided that no name is used twice.
-/
namespace FirstSeen.Toml

def Bare (name : String) : Prop :=
  name.toList ≠ [] ∧ name.toList.all isBareKeyChar = true

instance (name : String) : Decidable (Bare name) :=
  inferInstanceAs (Decidable (_ ∧ _))

theorem skipSpace_cons {c : Char} (h : isSpace c = false) (rest : List Char) :
    skipSpace (c :: rest) = c :: rest :=
  List.dropWhile_cons_of_neg (by simp [h])

theorem ne_of_isBareKeyChar {c d : Char} (hc : isBareKeyChar c = true)
    (hd : isBareKeyChar d = false) : c ≠ d :=
  ne_of_apply_ne isBareKeyChar (by rw [hc, hd]; decide)

theorem isSpace_of_isBareKeyChar {c : Char} (h : isBareKeyChar c = true) : isSpace c = false := by
  have hblank : c ≠ ' ' := ne_of_isBareKeyChar h (by decide)
  have htab : c ≠ '\t' := ne_of_isBareKeyChar h (by decide)
  simp [isSpace, hblank, htab]

namespace Bare

variable {name : String}

theorem exists_cons (hname : Bare name) :
    ∃ c more, name.toList = c :: more ∧ isBareKeyChar c = true := by
  obtain ⟨hne, hchars⟩ := hname
  cases h : name.toList with
  | nil => exact absurd h hne
  | cons c more =>
    rw [h, List.all_cons, Bool.and_eq_true] at hchars
    exact ⟨c, more, rfl, hchars.1⟩

theorem keyPart (hname : Bare name) {rest : List Char}
    (hrest : ∀ c ∈ rest.head?, isBareKeyChar c = false) :
    keyPart (name.toList ++ rest) = some (name.toList, rest) := by
  have htake : (name.toList ++ rest).takeWhile isBareKeyChar = name.toList := by
    rw [List.takeWhile_append_of_pos (List.all_eq_true.1 hname.2)]
    cases rest with
    | nil => simp
    | cons c rest => rw [List.takeWhile_cons_of_neg (by simp [hrest c rfl]), List.append_nil]
  have hdrop : (name.toList ++ rest).dropWhile isBareKeyChar = rest := by
    rw [List.dropWhile_append_of_pos (List.all_eq_true.1 hname.2)]
    cases rest with
    | nil => rfl
    | cons c rest => rw [List.dropWhile_cons_of_neg (by simp [hrest c rfl])]
  obtain ⟨c, more, hcons, hc⟩ := hname.exists_cons
  have hdouble : c ≠ '"' := ne_of_isBareKeyChar hc (by decide)
  have hsingle : c ≠ '\'' := ne_of_isBareKeyChar hc (by decide)
  rw [hcons] at htake hdrop ⊢
  rw [List.cons_append] at htake hdrop ⊢
  rw [Toml.keyPart, if_neg hdouble, if_neg hsingle, htake, hdrop]

theorem key (hname : Bare name) {rest : List Char}
    (hrest : ∀ c ∈ rest.head?, isBareKeyChar c = false)
    (hdot : ∀ c ∈ (skipSpace rest).head?, c ≠ '.') :
    key (name.toList ++ rest) = some ([name], skipSpace rest) := by
  have hspace : skipSpace (name.toList ++ rest) = name.toList ++ rest := by
    obtain ⟨c, more, hcons, hc⟩ := hname.exists_cons
    rw [hcons, List.cons_append, skipSpace_cons (isSpace_of_isBareKeyChar hc)]
  rw [Toml.key, partLimit, keyParts, hspace, hname.keyPart hrest]
  simp only [Option.bind_eq_bind, Option.bind_some, String.ofList_toList]
  split
  · next heq => exact absurd rfl (hdot '.' (by rw [heq]; rfl))
  · rfl

end Bare

namespace Value

/-- The characters, with the end of a line behind them, are read as the value. -/
structure WrittenAs (v : Value) (s : List Char) : Prop where
  start : ∀ rest, skipSpace (s ++ '\n' :: rest) = s ++ '\n' :: rest
  reads : ∀ rest, value depthLimit (s ++ '\n' :: rest) = some (v, '\n' :: rest)

end Value

theorem value_of_head {c : Char} (hbracket : c ≠ '[') (hbrace : c ≠ '\x7b') (rest : List Char) :
    value depthLimit (c :: rest) = scalar (c :: rest) := by
  rw [depthLimit, value.eq_def]
  simp [hbracket, hbrace]

theorem exists_cons_writeText (s : List Char) :
    ∃ c more, writeText s = c :: more ∧ (c = '"' ∨ c = '\'') := by
  unfold writeText
  cases styleOf s with
  | basicLine => exact ⟨'"', _, rfl, Or.inl rfl⟩
  | literalLine => exact ⟨'\'', _, rfl, Or.inr rfl⟩
  | basicBlock => exact ⟨'"', _, rfl, Or.inl rfl⟩
  | literalBlock => exact ⟨'\'', _, rfl, Or.inr rfl⟩

theorem writtenAs_writeText (s : String) : (Value.text s).WrittenAs (writeText s.toList) where
  start rest := by
    obtain ⟨c, more, hcons, hquote⟩ := exists_cons_writeText s.toList
    have hspace : isSpace c = false := by rcases hquote with rfl | rfl <;> rfl
    rw [hcons, List.cons_append, skipSpace_cons hspace]
  reads rest := by
    have hread : quotedText (writeText s.toList ++ '\n' :: rest) = some (s.toList, '\n' :: rest) :=
      quotedText_writeText (by simp [Ends]) (by simp [Ends]) s.toList
    obtain ⟨c, more, hcons, hquote⟩ := exists_cons_writeText s.toList
    have hbracket : c ≠ '[' := by rcases hquote with rfl | rfl <;> decide
    have hbrace : c ≠ '\x7b' := by rcases hquote with rfl | rfl <;> decide
    rw [hcons, List.cons_append] at hread ⊢
    rw [value_of_head hbracket hbrace, scalar, if_pos hquote, hread]
    exact congrArg (fun t => some (Value.text t, '\n' :: rest)) String.ofList_toList

theorem writtenAs_writeFlag (b : Bool) : (Value.boolean b).WrittenAs (writeFlag b) where
  start rest := by cases b <;> rfl
  reads rest := by cases b <;> rfl

namespace Statement

structure IsLine (statement : Statement) (line : List Char) : Prop where
  start : ∃ c more, line = c :: more ∧ isSpace c = false ∧ ¬(c = '#' ∨ c = '\n' ∨ c = '\r')
  reads : ∀ rest, read (line ++ rest) = some (statement, rest)

theorem isLine_writeHeader {name : String} (hname : Bare name) :
    (header [name]).IsLine (writeHeader name) where
  start := ⟨'[', _, rfl, by decide, by decide⟩
  reads rest := by
    obtain ⟨c, more, hcons, hc⟩ := hname.exists_cons
    have hbracket : c ≠ '[' := ne_of_isBareKeyChar hc (by decide)
    have hkey : key (name.toList ++ ']' :: '\n' :: rest) = some ([name], ']' :: '\n' :: rest) :=
      hname.key (by simp [isBareKeyChar]) (by simp [skipSpace, isSpace])
    have hshape : writeHeader name ++ rest = '[' :: (name.toList ++ ']' :: '\n' :: rest) := by
      simp [writeHeader]
    have hheader : read (writeHeader name ++ rest) =
        readHeader (name.toList ++ ']' :: '\n' :: rest) := by
      rw [hshape, read.eq_def, hcons]
      simp [hbracket]
    rw [hheader, readHeader, hkey]
    rfl

theorem isLine_writeLine {α : Type} {write : α → List Char} {v : Value} {a : α} {name : String}
    (hname : Bare name) (hv : v.WrittenAs (write a)) :
    (assign [name] v).IsLine (writeLine write name (some a)) where
  start := by
    obtain ⟨c, more, hcons, hc⟩ := hname.exists_cons
    refine ⟨c, more ++ [' ', '=', ' '] ++ write a ++ ['\n'], by simp [writeLine, hcons],
      isSpace_of_isBareKeyChar hc, ?_⟩
    have hhash : c ≠ '#' := ne_of_isBareKeyChar hc (by decide)
    have hline : c ≠ '\n' := ne_of_isBareKeyChar hc (by decide)
    have hreturn : c ≠ '\r' := ne_of_isBareKeyChar hc (by decide)
    simp [hhash, hline, hreturn]
  reads rest := by
    obtain ⟨c, more, hcons, hc⟩ := hname.exists_cons
    have hbracket : c ≠ '[' := ne_of_isBareKeyChar hc (by decide)
    have hkey : key (name.toList ++ ' ' :: '=' :: ' ' :: (write a ++ '\n' :: rest)) =
        some ([name], '=' :: ' ' :: (write a ++ '\n' :: rest)) :=
      hname.key (by simp [isBareKeyChar]) (by simp [skipSpace, isSpace])
    have hshape : writeLine write name (some a) ++ rest =
        name.toList ++ ' ' :: '=' :: ' ' :: (write a ++ '\n' :: rest) := by
      simp [writeLine]
    have hassign : read (writeLine write name (some a) ++ rest) =
        readAssignment (name.toList ++ ' ' :: '=' :: ' ' :: (write a ++ '\n' :: rest)) := by
      rw [hshape, read.eq_def, hcons]
      simp [hbracket]
    have hstart : skipSpace (' ' :: (write a ++ '\n' :: rest)) = write a ++ '\n' :: rest :=
      hv.start rest
    have hread : assignment (value depthLimit)
        (name.toList ++ ' ' :: '=' :: ' ' :: (write a ++ '\n' :: rest)) =
          some (([name], v), '\n' :: rest) := by
      rw [assignment, hkey]
      change (value depthLimit (skipSpace (' ' :: (write a ++ '\n' :: rest)))).bind _ = _
      rw [hstart, hv.reads]
      rfl
    rw [hassign, readAssignment, hread]
    rfl

def Reads (s : List Char) (statements : List Statement) : Prop :=
  ∀ fuel, s.length < fuel → readAll fuel s = some statements

theorem reads_nil : Reads [] [] := by
  intro fuel hfuel
  obtain ⟨fuel, rfl⟩ := Nat.exists_eq_add_of_lt hfuel
  rfl

namespace Reads

variable {s : List Char} {statements : List Statement}

theorem newline (h : Reads s statements) : Reads ('\n' :: s) statements := by
  intro fuel hfuel
  cases fuel with
  | zero => exact absurd hfuel (Nat.not_lt_zero _)
  | succ fuel => exact h fuel (Nat.lt_of_succ_lt_succ hfuel)

theorem line (h : Reads s statements) {statement : Statement} {line : List Char}
    (hline : statement.IsLine line) : Reads (line ++ s) (statement :: statements) := by
  intro fuel hfuel
  obtain ⟨c, more, hcons, hspace, hplain⟩ := hline.start
  have hread := hline.reads s
  have hskip : skipSpace (line ++ s) = c :: (more ++ s) := by
    rw [hcons, List.cons_append, skipSpace_cons hspace]
  rw [List.length_append, hcons, List.length_cons] at hfuel
  rw [hcons, List.cons_append] at hread
  cases fuel with
  | zero => omega
  | succ fuel =>
    rw [readAll, hskip]
    simp only [if_neg hplain, hread, h fuel (by omega), Option.bind_eq_bind, Option.bind_some]
    rfl

end Reads

end Statement

namespace Entries

def names (entries : Entries) : List String := entries.map Prod.fst

theorem names_append (entries more : Entries) :
    names (entries ++ more) = entries.names ++ more.names := List.map_append

theorem not_mem_of_nodup {done more : Entries} {entry : String × Value}
    (h : (done ++ [entry] ++ more).names.Nodup) : entry.1 ∉ done.names := by
  rw [names_append, names_append] at h
  intro hmem
  have hprefix := (List.nodup_append.1 h).1
  exact (List.nodup_append.1 hprefix).2.2 _ hmem _ List.mem_cons_self rfl

variable {entries : Entries} {name : String} {v : Value}

theorem get?_eq_none (h : name ∉ entries.names) : get? entries name = none := by
  induction entries with
  | nil => rfl
  | cons entry entries ih =>
    rw [names, List.map_cons, List.mem_cons, not_or] at h
    rw [get?, List.lookup_cons, beq_false_of_ne h.1]
    exact ih h.2

theorem get?_append_last (h : name ∉ entries.names) :
    get? (entries ++ [(name, v)]) name = some v := by
  induction entries with
  | nil => simp [get?]
  | cons entry entries ih =>
    rw [names, List.map_cons, List.mem_cons, not_or] at h
    rw [List.cons_append, get?, List.lookup_cons, beq_false_of_ne h.1]
    exact ih h.2

theorem replace_append_last (h : name ∉ entries.names) (w : Value) :
    replace name w (entries ++ [(name, v)]) = entries ++ [(name, w)] := by
  induction entries with
  | nil => simp [replace]
  | cons entry entries ih =>
    rw [names, List.map_cons, List.mem_cons, not_or] at h
    rw [List.cons_append, replace, if_neg (Ne.symm h.1), ih h.2]
    rfl

end Entries

abbrev Section := String × Entries

namespace Section

def entry (s : Section) : String × Value := (s.1, .table .explicit s.2)

def assignments (entries : Entries) : List Statement :=
  entries.map fun entry => .assign [entry.1] entry.2

def statements (s : Section) : List Statement := .header [s.1] :: assignments s.2

theorem assignments_append (entries more : Entries) :
    assignments (entries ++ more) = assignments entries ++ assignments more := List.map_append

def optional {α : Type} (toValue : α → Value) (name : String) (o : Option α) : Entries :=
  (o.map fun a => (name, toValue a)).toList

theorem names_optional_sublist {α : Type} (toValue : α → Value) (name : String) (o : Option α) :
    (optional toValue name o).names.Sublist [name] := by
  cases o with
  | none => exact List.nil_sublist _
  | some a => exact List.Sublist.refl _

end Section

theorem Statement.Reads.writeLine {s : List Char} {statements : List Statement}
    (h : Reads s statements) {α : Type} {write : α → List Char} {toValue : α → Value}
    {name : String} (hname : Bare name) (hwrite : ∀ a, (toValue a).WrittenAs (write a))
    (o : Option α) :
    Reads (writeLine write name o ++ s)
      (Section.assignments (Section.optional toValue name o) ++ statements) := by
  cases o with
  | none => exact h
  | some a => exact h.line (isLine_writeLine hname (hwrite a))

namespace Draft

def inSection (form : Form) (before : Entries) (name : String) (entries : Entries) : Draft :=
  ⟨⟨form, before ++ [(name, .table .explicit entries)]⟩, [name]⟩

variable {form : Form} {before : Entries} {name : String}

theorem apply_header (h : name ∉ before.names) (path : List String) :
    apply ⟨⟨form, before⟩, path⟩ (.header [name]) = some (inSection form before name []) := by
  simp [apply, Table.header, Table.change, Entries.get?_eq_none h, Entries.put, inSection]

theorem apply_assign (h : name ∉ before.names) {entries : Entries} {key : String}
    (hkey : key ∉ entries.names) (v : Value) :
    apply (inSection form before name entries) (.assign [key] v) =
      some (inSection form before name (entries ++ [(key, v)])) := by
  simp [apply, inSection, Table.change, Entries.get?_append_last h, Table.assignPath, Table.assign,
    Table.put, Entries.get?_eq_none hkey, Entries.put, Entries.replace_append_last h, Table.value]

theorem foldlM_assignments (h : name ∉ before.names) {done entries : Entries}
    (hnodup : (done ++ entries).names.Nodup) :
    (Section.assignments entries).foldlM apply (inSection form before name done) =
      some (inSection form before name (done ++ entries)) := by
  induction entries generalizing done with
  | nil => simp [Section.assignments]
  | cons entry entries ih =>
    rw [List.append_cons] at hnodup ⊢
    have hkey := Entries.not_mem_of_nodup hnodup
    rw [Section.assignments, List.map_cons, List.foldlM_cons, apply_assign h hkey]
    exact ih hnodup

theorem foldlM_statements {sections : List Section} {before : Entries}
    (hnames : (before ++ sections.map Section.entry).names.Nodup)
    (hentries : ∀ s ∈ sections, s.2.names.Nodup) (path : List String) :
    ∃ path', (sections.flatMap Section.statements).foldlM apply ⟨⟨form, before⟩, path⟩ =
      some ⟨⟨form, before ++ sections.map Section.entry⟩, path'⟩ := by
  induction sections generalizing before path with
  | nil => exact ⟨path, by simp⟩
  | cons s sections ih =>
    rw [List.map_cons, List.append_cons] at hnames ⊢
    have hname : s.1 ∉ before.names := Entries.not_mem_of_nodup hnames
    obtain ⟨path', hrest⟩ := ih hnames (fun t ht => hentries t (List.mem_cons_of_mem s ht)) [s.1]
    refine ⟨path', ?_⟩
    have hsection : (Section.assignments s.2).foldlM apply (inSection form before s.1 []) =
        some (inSection form before s.1 s.2) :=
      foldlM_assignments hname (hentries s List.mem_cons_self)
    rw [List.flatMap_cons, List.foldlM_append, Section.statements, List.foldlM_cons,
      apply_header hname]
    change ((Section.assignments s.2).foldlM apply _ >>= _) = _
    rw [hsection]
    exact hrest

end Draft

/-- A document that holds the lines of sections, one after another, is read as these sections. -/
theorem read_of_reads {s : List Char} {sections : List Section}
    (h : Statement.Reads s (sections.flatMap Section.statements))
    (hmark : ∀ c ∈ s.head?, c ≠ '\uFEFF')
    (hnames : Entries.names (sections.map Section.entry) |>.Nodup)
    (hentries : ∀ t ∈ sections, t.2.names.Nodup) :
    read s = some (sections.map Section.entry) := by
  have hdrop : dropByteOrderMark s = s := by
    unfold dropByteOrderMark
    split
    · exact absurd rfl (hmark _ rfl)
    · rfl
  obtain ⟨path, hbuild⟩ : ∃ path, (sections.flatMap Section.statements).foldlM Draft.apply
      Draft.empty = some ⟨⟨.explicit, sections.map Section.entry⟩, path⟩ :=
    Draft.foldlM_statements hnames hentries []
  rw [read, hdrop, h _ (Nat.lt_succ_self _)]
  change (Draft.build _ >>= _) = _
  rw [Draft.build, hbuild]
  rfl

end FirstSeen.Toml
