import FirstSeen.Log.Pattern.Brackets
import FirstSeen.Text.Alphanumeric

/-!
Which texts are patterns. A pattern is a regular expression over Unicode text in which the classes
that need a table of the whole character set (`\d`, `\w`, `\s`, `\p`), the boundary of a word, and
letters whose case does not matter are not to be had, unless Unicode is switched off for them by a
flag, and then they may stand for ASCII characters only. A pattern is nested no deeper than
`maxDepth`. Patterns never hold a closing brace, so repetitions with a count cannot be completed.
Only validity is decided here: nothing is ever matched.
-/
namespace FirstSeen.Log.Pattern

def flagSetting (seen : List Char) (flags : Flags) :
    List Char → Option (List Char × Flags × List Char)
  | [] => none
  | c :: rest =>
    if c = ':' ∨ c = ')' then
      if seen.head? = some '-' then none else some (seen, flags, c :: rest)
    else if seen.contains c then none
    else
      let on := !seen.contains '-'
      if c = 'u' then flagSetting (c :: seen) { flags with unicode := on } rest
      else if c = 'i' then flagSetting (c :: seen) { flags with caseless := on } rest
      else if c = 'x' then flagSetting (c :: seen) { flags with spaced := on } rest
      else if c = '-' ∨ c = 'm' ∨ c = 's' ∨ c = 'U' ∨ c = 'R' then
        flagSetting (c :: seen) flags rest
      else none

def isNameStart (c : Char) : Bool := c = '_' || Text.isAlphabetic c

def isNameChar (c : Char) : Bool :=
  c = '_' || c = '.' || c = '[' || c = ']' || Text.isAlphanumeric c

def groupName (s : List Char) : Option (List Char × List Char) :=
  match s.takeWhile isNameChar, s.dropWhile isNameChar with
  | c :: name, '>' :: rest => if isNameStart c then some (c :: name, rest) else none
  | _, _ => none

/-- What has been read so far: the flags in force, the group that is open, the groups around it with
their flags, and the names given to groups. -/
structure Scan where
  flags : Flags
  nest : Nest
  outer : List (Flags × Nest)
  names : List (List Char)

namespace Scan

def start : Scan := ⟨Flags.default, Nest.empty, [], []⟩

def enter (scan : Scan) (flags : Flags) : Scan :=
  { scan with flags, nest := Nest.empty, outer := (scan.flags, scan.nest) :: scan.outer }

def leave? (scan : Scan) : Option Scan :=
  match scan.outer with
  | (flags, parent) :: outer =>
    some { scan with flags, nest := parent.add (scan.nest.depth + 1), outer }
  | [] => none

def add (scan : Scan) (depth : Nat) : Scan := { scan with nest := scan.nest.add depth }

def named? (scan : Scan) (s : List Char) : Option (Scan × List Char) := do
  let (name, rest) ← groupName s
  if scan.names.contains name then none
  else some ({ scan with names := name :: scan.names }.enter scan.flags, rest)

def group? (scan : Scan) (s : List Char) : Option (Scan × List Char) :=
  match scan.flags.skip s with
  | '?' :: 'P' :: '<' :: rest => scan.named? rest
  | '?' :: '<' :: rest => scan.named? rest
  | '?' :: rest => do
    let (seen, flags, rest) ← flagSetting [] scan.flags rest
    match rest with
    | ':' :: rest => some (scan.enter flags, rest)
    | _ :: rest =>
      if seen = [] then none else some ({ scan with flags, nest := scan.nest.mark }, rest)
    | [] => none
  | rest => some (scan.enter scan.flags, rest)

end Scan

def dropLazy : List Char → List Char
  | '?' :: rest => rest
  | s => s

def scanOne (scan : Scan) (c : Char) (rest : List Char) : Option (Scan × List Char) :=
  if c = '(' then scan.group? rest
  else if c = ')' then scan.leave?.map fun scan => (scan, rest)
  else if c = '|' then some ({ scan with nest := scan.nest.alternate }, rest)
  else if c = '[' then (bracketed scan.flags rest).map fun (depth, rest) => (scan.add depth, rest)
  else if c = '?' ∨ c = '*' ∨ c = '+' then
    scan.nest.repeated?.map fun nest => ({ scan with nest }, dropLazy rest)
  else if c = '\x7b' then none
  else if c = '.' then if scan.flags.unicode then some (scan.add 0, rest) else none
  else if c = '^' ∨ c = '$' then some (scan.add 0, rest)
  else do
    let (atom, rest) ← bracketAtom scan.flags (c :: rest)
    if atom.allowed scan.flags then some (scan.add 0, rest) else none

def scanAll : Nat → Scan → List Char → Bool
  | 0, _, _ => false
  | fuel + 1, scan, s =>
    match scan.flags.skip s with
    | [] => scan.outer.isEmpty && scan.nest.depth ≤ maxDepth
    | c :: rest =>
      match scanOne scan c rest with
      | some (scan, rest) => scanAll fuel scan rest
      | none => false

def valid (s : List Char) : Bool := scanAll (s.length + 1) Scan.start s

end FirstSeen.Log.Pattern
