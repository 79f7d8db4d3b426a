import FirstSeen.Toml.Value

/-!
Tables under construction. To go down a path of keys means to enter the table under each key in
turn, and the last table of an array of tables; where nothing stands under a key yet, a new table is
put there, dotted or implicit. Values cannot be entered, closed tables neither, and a key with dots
does not enter a table that has a header of its own. Nothing is ever defined twice.
-/
namespace FirstSeen.Toml

namespace Entries

def get? (entries : Entries) (key : String) : Option Value := entries.lookup key

def replace (key : String) (value : Value) : Entries → Entries
  | [] => []
  | (k, v) :: rest => if k = key then (k, value) :: rest else (k, v) :: replace key value rest

def erase (key : String) : Entries → Entries
  | [] => []
  | (k, v) :: rest => if k = key then rest else (k, v) :: erase key rest

def put (entries : Entries) (key : String) (value : Value) : Entries := entries ++ [(key, value)]

end Entries

structure Table where
  form : Form
  entries : Entries

def Table.value (t : Table) : Value := .table t.form t.entries

def Table.change (byDots : Bool) (f : Table → Option Table) : List String → Table → Option Table
  | [], t => f t
  | key :: path, t =>
    match Entries.get? t.entries key with
    | none => do
      let fresh : Table := ⟨if byDots then .dotted else .implicit, []⟩
      let inner ← change byDots f path fresh
      return { t with entries := Entries.put t.entries key inner.value }
    | some (.table form entries) =>
      if form = .closed ∨ (byDots ∧ form = .explicit) then none
      else do
        let inner ← change byDots f path ⟨form, entries⟩
        return { t with entries := Entries.replace key inner.value t.entries }
    | some (.tables elements) =>
      match elements.getLast? with
      | none => none
      | some last => do
        let inner ← change byDots f path ⟨.explicit, last⟩
        let elements := elements.dropLast ++ [inner.entries]
        return { t with entries := Entries.replace key (.tables elements) t.entries }
    | some _ => none

def Table.put (key : String) (value : Value) (t : Table) : Option Table :=
  match Entries.get? t.entries key with
  | none => some { t with entries := Entries.put t.entries key value }
  | some _ => none

/-- Puts a value under a key with dots: `path` is what stands before the last dot. A table that is
reached by dots takes in new keys only if dots made it. -/
def Table.assign (path : List String) (key : String) (value : Value) (t : Table) : Option Table :=
  match path with
  | [] => t.put key value
  | path => t.change true (fun t => if t.form = .dotted then t.put key value else none) path

/-- Gives a table a header. An implicit table moves to the end and becomes explicit. -/
def Table.header (path : List String) (key : String) (t : Table) : Option Table :=
  let openHere (t : Table) : Option Table :=
    match Entries.get? t.entries key with
    | none => some { t with entries := Entries.put t.entries key (.table .explicit []) }
    | some (.table .implicit entries) =>
      some { t with
        entries := Entries.put (Entries.erase key t.entries) key (.table .explicit entries) }
    | some _ => none
  t.change false openHere path

def Table.element (path : List String) (key : String) (t : Table) : Option Table :=
  let addHere (t : Table) : Option Table :=
    match Entries.get? t.entries key with
    | none => some { t with entries := Entries.put t.entries key (.tables [[]]) }
    | some (.tables elements) =>
      some { t with entries := Entries.replace key (.tables (elements ++ [[]])) t.entries }
    | some _ => none
  t.change false addHere path

end FirstSeen.Toml
