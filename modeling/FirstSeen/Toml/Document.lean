import FirstSeen.Toml.Value.Reader

/-!
A TOML document is a sequence of statements, each on a line of its own: a header opens a table, a
header in double brackets adds a table to an array of tables, and an assignment puts a value into
the table that was opened last, or into the document itself before the first header. Reading a
document means reading its statements and carrying them out; whichever fails, there is no document.
-/
namespace FirstSeen.Toml

inductive Statement where
  | header (path : List String)
  | element (path : List String)
  | assign (path : List String) (value : Value)

namespace Statement

def readHeader (s : List Char) : Option (Statement × List Char) := do
  let (path, rest) ← key s
  let rest ← mark ']' rest
  return (.header path, ← lineEnd? rest)

def readElement (s : List Char) : Option (Statement × List Char) := do
  let (path, rest) ← key s
  let rest ← mark ']' rest
  let rest ← mark ']' rest
  return (.element path, ← lineEnd? rest)

def readAssignment (s : List Char) : Option (Statement × List Char) := do
  let ((path, v), rest) ← assignment (value depthLimit) s
  return (.assign path v, ← lineEnd? rest)

def read : Reader Statement
  | '[' :: '[' :: rest => readElement rest
  | '[' :: rest => readHeader rest
  | s => readAssignment s

def readAll : Nat → List Char → Option (List Statement)
  | 0, _ => none
  | fuel + 1, s =>
    match skipSpace s with
    | [] => some []
    | c :: rest =>
      if c = '#' ∨ c = '\n' ∨ c = '\r' then do
        readAll fuel (← lineEnd? (c :: rest))
      else do
        let (statement, rest) ← read (c :: rest)
        return statement :: (← readAll fuel rest)

end Statement

/-- A document that is being put together: the whole of it, and the path of the table that
is open. -/
structure Draft where
  root : Table
  path : List String

namespace Draft

def empty : Draft := ⟨⟨.explicit, []⟩, []⟩

def apply (d : Draft) : Statement → Option Draft
  | .header path => do
    let root ← d.root.header path.dropLast (← path.getLast?)
    return ⟨root, path⟩
  | .element path => do
    let root ← d.root.element path.dropLast (← path.getLast?)
    return ⟨root, path⟩
  | .assign path value => do
    let root ← d.root.change false (fun t => t.assignPath path value) d.path
    return { d with root }

def build (statements : List Statement) : Option Draft := statements.foldlM apply empty

end Draft

/-- A byte order mark at the very start does not count. -/
def dropByteOrderMark : List Char → List Char
  | '\uFEFF' :: rest => rest
  | s => s

def read (s : List Char) : Option Entries := do
  let s := dropByteOrderMark s
  let statements ← Statement.readAll (s.length + 1) s
  let draft ← Draft.build statements
  return draft.root.entries

end FirstSeen.Toml
