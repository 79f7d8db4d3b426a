import FirstSeen.Log.Pattern.Nesting
import FirstSeen.Text.Blank

/-!
The small parts of a pattern: flags, escapes, and sets of characters in brackets. White space and
comments count for nothing in the spaced form. A set may hold characters, ranges, classes with a
name, further sets, and operators between two sides, either of which may be empty.
-/
namespace FirstSeen.Log.Pattern

structure Flags where
  unicode : Bool
  caseless : Bool
  spaced : Bool
  deriving DecidableEq

def Flags.default : Flags := ⟨true, false, false⟩

def skipNote (s : List Char) : List Char := (s.dropWhile (· ≠ '\n')).drop 1

def skipSpaced : Nat → List Char → List Char
  | 0, s => s
  | _, [] => []
  | fuel + 1, c :: rest =>
    if Text.isBlank c then skipSpaced fuel rest
    else if c = '#' then skipSpaced fuel (skipNote rest)
    else c :: rest

def Flags.skip (flags : Flags) (s : List Char) : List Char :=
  if flags.spaced then skipSpaced s.length s else s

/-- The character that decides whether a hyphen stands for a range. In the spaced form white space
and the beginning of one comment are passed over, but not the text of the comment; where nothing
else is left, nothing is passed over. -/
def Flags.peek (flags : Flags) (s : List Char) : Option Char :=
  if flags.spaced then
    let next := match s.dropWhile Text.isBlank with
      | '#' :: note => (note.dropWhile Text.isBlank).head?
      | rest => rest.head?
    next <|> s.head?
  else s.head?

/-- Where case does not matter in Unicode text, no character can be had. -/
def Flags.folded (flags : Flags) : Bool := flags.unicode && flags.caseless

inductive Atom where
  | literal (c : Char) (byte : Bool)
  | classOf (negated : Bool)
  | edge (word : Bool)

def isMeta (c : Char) : Bool := "\\.+*?()|[]\x7b\x7d^$#&-~".toList.contains c

def isEscapable (c : Char) : Bool := c.toNat < 0x80 && !c.isAlphanum && c ≠ '<' && c ≠ '>'

def hexValue (c : Char) : Option Nat :=
  if c.isDigit then some (c.toNat - 48)
  else if 'a' ≤ c.toLower ∧ c.toLower ≤ 'f' then some (c.toLower.toNat - 87)
  else none

def hexCode (flags : Flags) : Nat → Nat → List Char → Option (Char × List Char)
  | 0, n, s => if h : n.isValidChar then some (Char.ofNatAux n h, s) else none
  | digits + 1, n, s =>
    match flags.skip s with
    | c :: rest =>
      match hexValue c with
      | some d => hexCode flags digits (16 * n + d) rest
      | none => none
    | [] => none

def escape (flags : Flags) : List Char → Option (Atom × List Char)
  | [] => none
  | c :: rest =>
    if c = 'x' then (hexCode flags 2 0 rest).map fun (c, rest) => (.literal c true, rest)
    else if c = 'u' then (hexCode flags 4 0 rest).map fun (c, rest) => (.literal c false, rest)
    else if c = 'U' then (hexCode flags 8 0 rest).map fun (c, rest) => (.literal c false, rest)
    else if c = 'd' ∨ c = 's' ∨ c = 'w' then some (.classOf false, rest)
    else if c = 'D' ∨ c = 'S' ∨ c = 'W' then some (.classOf true, rest)
    else if isMeta c ∨ isEscapable c then some (.literal c false, rest)
    else if c = 'a' then some (.literal '\x07' false, rest)
    else if c = 'f' then some (.literal '\x0c' false, rest)
    else if c = 't' then some (.literal '\t' false, rest)
    else if c = 'n' then some (.literal '\n' false, rest)
    else if c = 'r' then some (.literal '\r' false, rest)
    else if c = 'v' then some (.literal '\x0b' false, rest)
    else if c = 'A' ∨ c = 'z' then some (.edge false, rest)
    else if c = 'b' ∨ c = 'B' ∨ c = '<' ∨ c = '>' then some (.edge true, rest)
    else none

def Atom.allowed (flags : Flags) : Atom → Bool
  | .literal c byte =>
    if flags.unicode then !flags.folded else !(byte && 0x7F < c.toNat)
  | .classOf negated => !flags.unicode && !negated
  | .edge word => !(word && flags.unicode)

def Atom.allowedInBrackets (flags : Flags) : Atom → Bool
  | .literal c _ => if flags.unicode then !flags.folded else c.toNat ≤ 0x7F
  | .classOf negated => !flags.unicode && !negated
  | .edge _ => false

def bracketAtom (flags : Flags) : List Char → Option (Atom × List Char)
  | [] => none
  | '\\' :: rest => escape flags rest
  | c :: rest => some (.literal c false, rest)

/-- A single character or a range inside brackets. A hyphen before the closing bracket or before a
further hyphen is no range. -/
def bracketItem (flags : Flags) (s : List Char) : Option (List Char) := do
  let (first, rest) ← bracketAtom flags s
  let rest := flags.skip rest
  let single := if first.allowedInBrackets flags then some rest else none
  match rest with
  | '-' :: afterDash =>
    if flags.peek afterDash = some ']' ∨ flags.peek afterDash = some '-' then single
    else do
      let (last, rest) ← bracketAtom flags (flags.skip afterDash)
      match first, last with
      | .literal a _, .literal b _ =>
        if first.allowedInBrackets flags && last.allowedInBrackets flags && a ≤ b then some rest
        else none
      | _, _ => none
  | _ => single

def namedClasses : List String :=
  ["alnum", "alpha", "ascii", "blank", "cntrl", "digit", "graph", "lower", "print", "punct",
    "space", "upper", "word", "xdigit"]

def namedClass : List Char → Option (Bool × List Char)
  | ':' :: rest =>
    let (negated, rest) := match rest with
      | '^' :: rest => (true, rest)
      | rest => (false, rest)
    let name := rest.takeWhile (· ≠ ':')
    match rest.dropWhile (· ≠ ':') with
    | ':' :: ']' :: rest =>
      if namedClasses.contains (String.ofList name) then some (negated, rest) else none
    | _ => none
  | _ => none

def hyphens (flags : Flags) : Nat → Nest → List Char → Nest × List Char
  | fuel + 1, nest, '-' :: rest => hyphens flags fuel (nest.add 0) (flags.skip rest)
  | _, nest, s => (nest, s)

def bracketOpening (flags : Flags) (s : List Char) : Option (Nest × List Char) :=
  let (negated, s) := match flags.skip s with
    | '^' :: rest => (true, flags.skip rest)
    | s => (false, s)
  let (nest, s) := match s with
    | ']' :: rest => (Nest.empty.add 0, flags.skip rest)
    | s => hyphens flags s.length Nest.empty s
  if (negated && !flags.unicode) || (flags.folded && nest ≠ Nest.empty) then none
  else some (nest, s)

/-- Reads up to the end of the outermost brackets; `outer` are the sets around. Gives the depth of
the whole as well. -/
def brackets (flags : Flags) : Nat → List Nest → Nest → List Char → Option (Nat × List Char)
  | 0, _, _, _ => none
  | fuel + 1, outer, nest, s =>
    match flags.skip s with
    | [] => none
    | ']' :: rest =>
      match outer with
      | [] => some (nest.depth + 1, rest)
      | parent :: outer => brackets flags fuel outer (parent.add (nest.depth + 1)) rest
    | '[' :: rest =>
      match namedClass rest with
      | some (negated, rest) =>
        if flags.folded || (negated && !flags.unicode) then none
        else brackets flags fuel outer (nest.add 0) rest
      | none => do
        let (inner, rest) ← bracketOpening flags rest
        brackets flags fuel (nest :: outer) inner rest
    | '&' :: '&' :: rest => brackets flags fuel outer nest.operate rest
    | '-' :: '-' :: rest => brackets flags fuel outer nest.operate rest
    | '~' :: '~' :: rest => brackets flags fuel outer nest.operate rest
    | s => do brackets flags fuel outer (nest.add 0) (← bracketItem flags s)

def bracketed (flags : Flags) (s : List Char) : Option (Nat × List Char) := do
  let (nest, rest) ← bracketOpening flags s
  brackets flags (rest.length + 1) [] nest rest

end FirstSeen.Log.Pattern
