import FirstSeen.Toml.Spacing

/-!
The four kinds of quoted text in TOML. Between double quotes a backslash starts an escape, between
single quotes every character stands for itself; both kinds exist on one line and, with the quote
written three times, over several lines. Over several lines a line feed right after the opening
quotes is dropped, a carriage return and line feed count as a line feed, one or two quotes may stand
anywhere, up to two quotes may stand right in front of the closing ones, and between double quotes a
backslash at the end of a line swallows all white space up to the next character.
-/
namespace FirstSeen.Toml

def isNonAscii (c : Char) : Bool := 0x80 ≤ c.toNat

def isBasicChar (c : Char) : Bool :=
  isNonAscii c || c = '\t' || (0x20 ≤ c.toNat && c.toNat ≤ 0x7E && c ≠ '"' && c ≠ '\\')

def isLiteralChar (c : Char) : Bool :=
  isNonAscii c || c = '\t' || (0x20 ≤ c.toNat && c.toNat ≤ 0x7E && c ≠ '\'')

def escapeOf (c : Char) : Option Char :=
  if c = 'b' then some '\x08'
  else if c = 't' then some '\t'
  else if c = 'n' then some '\n'
  else if c = 'f' then some '\x0c'
  else if c = 'r' then some '\r'
  else if c = '"' then some '"'
  else if c = '\\' then some '\\'
  else none

def hexDigit? (c : Char) : Option Nat :=
  if '0' ≤ c ∧ c ≤ '9' then some (c.toNat - 48)
  else if 'A' ≤ c ∧ c ≤ 'F' then some (c.toNat - 55)
  else if 'a' ≤ c ∧ c ≤ 'f' then some (c.toNat - 87)
  else none

def scalar? (n : Nat) : Option Char := if h : n.isValidChar then some (Char.ofNatAux n h) else none

/-- Where in an escape a reader is: in none, after the backslash, or before so many more digits of a
code point. -/
inductive Escape where
  | outside
  | opened
  | digits (left value : Nat)
  deriving DecidableEq

def Escape.next : Escape → Char → Option (Option Char × Escape)
  | .outside, _ => none
  | .opened, c =>
    if c = 'u' then some (none, .digits 3 0)
    else if c = 'U' then some (none, .digits 7 0)
    else (escapeOf c).map fun e => (some e, .outside)
  | .digits left value, c => do
    let value := 16 * value + (← hexDigit? c)
    match left with
    | 0 => return (some (← scalar? value), .outside)
    | left + 1 => return (none, .digits left value)

def withChar (c : Char) (result : Option (List Char × List Char)) :
    Option (List Char × List Char) :=
  result.map fun (s, rest) => (c :: s, rest)

def withChar? : Option Char → Option (List Char × List Char) → Option (List Char × List Char)
  | some c, result => withChar c result
  | none, result => result

def basicLine : Escape → Reader (List Char)
  | _, [] => none
  | .outside, c :: rest =>
    if c = '"' then some ([], rest)
    else if c = '\\' then basicLine .opened rest
    else if isBasicChar c then withChar c (basicLine .outside rest)
    else none
  | .opened, c :: rest =>
    match Escape.next .opened c with
    | some (done, escape) => withChar? done (basicLine escape rest)
    | none => none
  | .digits left value, c :: rest =>
    match Escape.next (.digits left value) c with
    | some (done, escape) => withChar? done (basicLine escape rest)
    | none => none

def literalLine : Reader (List Char)
  | [] => none
  | c :: rest =>
    if c = '\'' then some ([], rest)
    else if isLiteralChar c then withChar c (literalLine rest)
    else none

def closeBlock (quote : Char) : List Char → List Char × List Char
  | a :: b :: rest =>
    if a = quote then if b = quote then ([quote, quote], rest) else ([quote], b :: rest)
    else ([], a :: b :: rest)
  | [a] => if a = quote then ([quote], []) else ([], [a])
  | [] => ([], [])

def twoQuotes? (quote : Char) : List Char → Option (List Char)
  | a :: b :: rest => if a = quote ∧ b = quote then some rest else none
  | _ => none

def atLineEnd (s : List Char) : Bool := (newline? (skipSpace s)).isSome

/-- Reads text over several lines up to three double quotes. While `trimming`, spaces and line ends
are passed over. -/
def basicBlock : Bool → Escape → Reader (List Char)
  | _, _, [] => none
  | trimming, .outside, c :: rest =>
    if c = '"' then
      match twoQuotes? '"' rest with
      | some rest => some (closeBlock '"' rest)
      | none => withChar c (basicBlock false .outside rest)
    else if c = '\\' then
      if atLineEnd rest then basicBlock true .outside rest else basicBlock false .opened rest
    else if trimming && isSpace c then basicBlock true .outside rest
    else if c = '\n' then
      if trimming then basicBlock true .outside rest
      else withChar c (basicBlock false .outside rest)
    else if c = '\r' then
      match rest with
      | '\n' :: rest =>
        if trimming then basicBlock true .outside rest
        else withChar '\n' (basicBlock false .outside rest)
      | _ => none
    else if isBasicChar c then withChar c (basicBlock false .outside rest)
    else none
  | _, .opened, c :: rest =>
    match Escape.next .opened c with
    | some (done, escape) => withChar? done (basicBlock false escape rest)
    | none => none
  | _, .digits left value, c :: rest =>
    match Escape.next (.digits left value) c with
    | some (done, escape) => withChar? done (basicBlock false escape rest)
    | none => none

def literalBlock : Reader (List Char)
  | [] => none
  | c :: rest =>
    if c = '\'' then
      match twoQuotes? '\'' rest with
      | some rest => some (closeBlock '\'' rest)
      | none => withChar c (literalBlock rest)
    else if c = '\n' then withChar c (literalBlock rest)
    else if c = '\r' then
      match rest with
      | '\n' :: rest => withChar '\n' (literalBlock rest)
      | _ => none
    else if isLiteralChar c then withChar c (literalBlock rest)
    else none

def dropNewline (s : List Char) : List Char := (newline? s).getD s

def quotedText : Reader (List Char)
  | '"' :: rest =>
    match twoQuotes? '"' rest with
    | some rest => basicBlock false .outside (dropNewline rest)
    | none => basicLine .outside rest
  | '\'' :: rest =>
    match twoQuotes? '\'' rest with
    | some rest => literalBlock (dropNewline rest)
    | none => literalLine rest
  | _ => none

end FirstSeen.Toml
