import FirstSeen.Toml.Key
import FirstSeen.Toml.Moment
import FirstSeen.Toml.Number
import FirstSeen.Toml.Table

/-!
Reading a value. An array may run over several lines and end with a comma; a table in braces stays
on one line, has no comma at its end, and takes keys with dots. Arrays and tables in braces may be
nested 79 deep.
-/
namespace FirstSeen.Toml

def depthLimit : Nat := 79

def scalar : Reader Value
  | [] => none
  | c :: rest =>
    let s := c :: rest
    if c = '"' ∨ c = '\'' then do
      let (text, rest) ← quotedText s
      return (.text (String.ofList text), rest)
    else if looksLikeDate s then do
      let (moment, rest) ← dateTime s
      return (.moment moment, rest)
    else if looksLikeTime s then do
      let (moment, rest) ← timeOnly s
      return (.moment moment, rest)
    else
      match s with
      | 't' :: 'r' :: 'u' :: 'e' :: rest => some (.boolean true, rest)
      | 'f' :: 'a' :: 'l' :: 's' :: 'e' :: rest => some (.boolean false, rest)
      | s => number s

def arrayItems (value : Reader Value) : Nat → Reader (List Value)
  | 0, _ => none
  | fuel + 1, s =>
    match skipFiller false s with
    | ']' :: rest => some ([], rest)
    | s => do
      let (item, rest) ← value s
      match skipFiller false rest with
      | ',' :: rest => do
        let (items, rest) ← arrayItems value fuel rest
        return (item :: items, rest)
      | ']' :: rest => return ([item], rest)
      | _ => none

def assignment (value : Reader Value) (s : List Char) :
    Option ((List String × Value) × List Char) := do
  let (path, rest) ← key s
  let rest ← mark '=' rest
  let (v, rest) ← value (skipSpace rest)
  return ((path, v), rest)

def Table.assignPath (t : Table) (path : List String) (value : Value) : Option Table :=
  match path.getLast? with
  | none => none
  | some key => t.assign path.dropLast key value

def braceItems (value : Reader Value) : Nat → Table → Reader Table
  | 0, _, _ => none
  | fuel + 1, t, s => do
    let ((path, v), rest) ← assignment value s
    let t ← t.assignPath path v
    match skipSpace rest with
    | ',' :: rest => braceItems value fuel t rest
    | '\x7d' :: rest => return (t, rest)
    | _ => none

/-- Reads a value in which arrays and tables are nested at most `depth` deep. -/
def value : Nat → Reader Value
  | 0, s => scalar s
  | depth + 1, s =>
    match s with
    | '[' :: rest => do
      let (items, rest) ← arrayItems (value depth) (rest.length + 1) rest
      return (.array items, rest)
    | '\x7b' :: rest =>
      match skipSpace rest with
      | '\x7d' :: rest => some (.table .closed [], rest)
      | rest => do
        let (t, rest) ← braceItems (value depth) (rest.length + 1) ⟨.explicit, []⟩ rest
        return (.table .closed t.entries, rest)
    | s => scalar s

end FirstSeen.Toml
