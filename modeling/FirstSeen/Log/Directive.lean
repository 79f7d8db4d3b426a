import FirstSeen.Log.Event
import FirstSeen.Log.Pattern
import FirstSeen.Text.Pieces

/-!
Directives of a log filter. A directive may name a target, a span, a field with or without a value,
and a threshold, written `target[span\x7bfield=value\x7d]=level`; each part may be missing, and a
lone word is a threshold if it is one and a target otherwise. Without a threshold everything passes.

The parts are found in the directive without the blanks around it, by their distance in bytes from
its start, and they are taken at these distances from the directive with its blanks. So a blank in
front shifts every part, and the last part takes in the blanks behind.
-/
namespace FirstSeen.Log

structure FieldFilter where
  name : List Char
  value : Option (List Char)
  deriving DecidableEq

structure Directive where
  target : Option (List Char)
  span : Option (List Char)
  field : Option FieldFilter
  threshold : Threshold
  deriving DecidableEq

namespace Directive

def all : Directive := ⟨none, none, none, .upTo .trace⟩

def dropBytes : Nat → List Char → Option (List Char)
  | 0, s => some s
  | _, [] => none
  | n, c :: rest => if c.utf8Size ≤ n then dropBytes (n - c.utf8Size) rest else none

def takeBytes : Nat → List Char → Option (List Char)
  | 0, _ => some []
  | _, [] => none
  | n, c :: rest =>
    if c.utf8Size ≤ n then (takeBytes (n - c.utf8Size) rest).map (c :: ·) else none

def cut (piece : List Char) (first last : Nat) : Option (List Char) := do
  takeBytes (last - first) (← dropBytes first piece)

def dropSign : List Char → List Char
  | '+' :: rest => rest
  | '-' :: rest => rest
  | s => s

def isExponent : List Char → Bool
  | [] => true
  | c :: rest =>
    (c = 'e' || c = 'E') && !(dropSign rest).isEmpty && (dropSign rest).all Char.isDigit

def isFloat (s : List Char) : Bool :=
  let s := dropSign s
  let word := String.ofList (s.map Char.toLower)
  let whole := s.takeWhile Char.isDigit
  let afterWhole := s.dropWhile Char.isDigit
  let afterPoint := match afterWhole with
    | '.' :: rest => rest
    | rest => rest
  let fraction :=
    if afterPoint.length = afterWhole.length then [] else afterPoint.takeWhile Char.isDigit
  let rest := afterPoint.drop fraction.length
  word = "inf" || word = "infinity" || word = "nan"
    || (!(whole.isEmpty && fraction.isEmpty) && isExponent rest)

/-- A value is a flag, a number or a pattern. Flags and whole numbers other than those with a plus
sign are patterns as well. -/
def isFieldValue (s : List Char) : Bool := isFloat s || Pattern.valid s

def readField (s : List Char) : Option FieldFilter :=
  let name := s.takeWhile (· ≠ '=')
  match s.dropWhile (· ≠ '=') with
  | [] => some ⟨name, none⟩
  | _ :: rest =>
    let value := rest.takeWhile (· ≠ '=')
    if isFieldValue value then some ⟨name, some value⟩ else none

/-- Where a reader is; the number is the distance at which the current part begins. -/
inductive Place where
  | start
  | word (first : Nat)
  | span (first : Nat)
  | field (first : Nat)
  | afterFields
  | afterSpan
  | level (first : Nat)
  deriving DecidableEq

def isWordStart (c : Char) : Bool := c = '-' || c = ':' || c = '_' || Text.isAlphanumeric c

def step (piece : List Char) (distance : Nat) (c : Char) :
    Place × Directive → Option (Place × Directive)
  | (.start, d) =>
    if c = '[' then some (.span (distance + 1), d)
    else if isWordStart c then some (.word distance, d)
    else none
  | (.word first, d) =>
    if c = '=' then do
      return (.level (distance + 1), { d with target := some (← cut piece first distance) })
    else if c = '[' then do
      return (.span (distance + 1), { d with target := some (← cut piece first distance) })
    else some (.word first, d)
  | (.span first, d) =>
    if c = ']' then do
      return (.afterSpan, { d with span := some (← cut piece first distance) })
    else if c = '\x7b' then do
      let span ← cut piece first distance
      return (.field (distance + 1), { d with span := if span = [] then none else some span })
    else some (.span first, d)
  | (.field first, d) =>
    if c = '\x7d' then do
      let text ← cut piece first distance
      if text = [] then none
      else return (.afterFields, { d with field := some (← readField text) })
    else some (.field first, d)
  | (.afterFields, d) => if c = ']' then some (.afterSpan, d) else none
  | (.afterSpan, d) => if c = '=' then some (.level (distance + 1), d) else none
  | (.level first, d) => some (.level first, d)

def walk (piece : List Char) : Nat → Place × Directive → List Char → Option (Place × Directive)
  | _, state, [] => some state
  | distance, state, c :: rest => do
    walk piece (distance + c.utf8Size) (← step piece distance c state) rest

def finish (piece : List Char) : Place × Directive → Option Directive
  | (.word first, d) => do
    let word ← dropBytes first piece
    match Threshold.read? word with
    | some threshold => return { d with threshold, target := none }
    | none => return { d with target := some word }
  | (.level first, d) => do
    let level ← dropBytes first piece
    if level = [] then return d
    else return { d with threshold := ← Threshold.read? level }
  | (.afterSpan, d) => some d
  | _ => none

def read (piece : List Char) : Option Directive := do
  finish piece (← walk piece 0 (.start, all) (Text.trim piece))

def written (s : List Char) : List (List Char) := (Text.piecesAt ',' s).filter (· ≠ [])

def readAll (s : List Char) : Option (List Directive) := (written s).mapM read

def readSome (s : List Char) : List Directive := (written s).filterMap read

theorem readSome_of_readAll {s : List Char} {ds : List Directive} (h : readAll s = some ds) :
    readSome s = ds := by
  unfold readAll at h
  unfold readSome
  generalize written s = ps at h ⊢
  induction ps generalizing ds with
  | nil => simp_all
  | cons p ps ih =>
    simp only [List.mapM_cons, Option.bind_eq_bind, Option.bind_eq_some_iff, Option.pure_def,
      Option.some.injEq] at h
    obtain ⟨d, hd, rest, hrest, rfl⟩ := h
    simp [hd, ih hrest]

end Directive

end FirstSeen.Log
