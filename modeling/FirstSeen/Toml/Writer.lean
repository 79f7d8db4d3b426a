import FirstSeen.Toml.Quoted

/-!
Writing a text as TOML. Of the forms that exist the first one that fits is taken: on one line
between double quotes if nothing needs an escape, on one line between single quotes, over several
lines between double quotes, over several lines between single quotes; where none fits, double
quotes with escapes. A text that has lines of its own starts on a fresh line after the opening
quotes.
-/
namespace FirstSeen.Toml

def isControl (c : Char) : Bool :=
  (c.toNat ≤ 0x1F && c ≠ '\t' && c ≠ '\n') || c.toNat = 0x7F

/-- Whether some character stands three times in a row; `run` of it came just before. -/
def hasTriple (quote : Char) : Nat → List Char → Bool
  | _, [] => false
  | run, c :: rest =>
    if c = quote then if run = 2 then true else hasTriple quote (run + 1) rest
    else hasTriple quote 0 rest

def hexChar (n : Nat) : Char := if n < 10 then Char.ofNat (48 + n) else Char.ofNat (55 + n)

def codeEscape (c : Char) : List Char :=
  let n := c.toNat
  ['\\', 'u', hexChar (n / 4096 % 16), hexChar (n / 256 % 16), hexChar (n / 16 % 16),
    hexChar (n % 16)]

def basicChar (c : Char) : List Char :=
  if c = '\x08' then ['\\', 'b']
  else if c = '\t' then ['\\', 't']
  else if c = '\x0c' then ['\\', 'f']
  else if c = '\r' then ['\\', 'r']
  else if c = '\\' then ['\\', '\\']
  else if isControl c then codeEscape c
  else [c]

def lineChar (c : Char) : List Char :=
  if c = '"' then ['\\', '"'] else if c = '\n' then ['\\', 'n'] else basicChar c

def blockChars : Nat → List Char → List Char
  | _, [] => []
  | run, c :: rest =>
    if c = '"' then
      if run = 2 then '\\' :: '"' :: blockChars 0 rest else '"' :: blockChars (run + 1) rest
    else if c = '\n' then '\n' :: blockChars 0 rest
    else basicChar c ++ blockChars 0 rest

inductive Style where
  | basicLine
  | literalLine
  | basicBlock
  | literalBlock
  deriving DecidableEq

def styleOf (s : List Char) : Style :=
  let control := s.any isControl
  let line := !s.contains '\n'
  if !control && line && !s.contains '\\' && !s.contains '"' then .basicLine
  else if !control && line && !s.contains '\'' then .literalLine
  else if !control && !s.contains '\\' && !hasTriple '"' 0 s then .basicBlock
  else if !control && !hasTriple '\'' 0 s then .literalBlock
  else if line then .basicLine
  else .basicBlock

def freshLine (s : List Char) : List Char := if s.contains '\n' then ['\n'] else []

def inStyle (style : Style) (s : List Char) : List Char :=
  match style with
  | .basicLine => ['"'] ++ s.flatMap lineChar ++ ['"']
  | .literalLine => ['\''] ++ s ++ ['\'']
  | .basicBlock => ['"', '"', '"'] ++ freshLine s ++ blockChars 0 s ++ ['"', '"', '"']
  | .literalBlock => ['\'', '\'', '\''] ++ freshLine s ++ s ++ ['\'', '\'', '\'']

def writeText (s : List Char) : List Char := inStyle (styleOf s) s

def writeFlag (b : Bool) : List Char :=
  if b then ['t', 'r', 'u', 'e'] else ['f', 'a', 'l', 's', 'e']

def writeLine {α : Type} (write : α → List Char) (key : String) : Option α → List Char
  | none => []
  | some a => key.toList ++ [' ', '=', ' '] ++ write a ++ ['\n']

def writeHeader (key : String) : List Char := ['['] ++ key.toList ++ [']', '\n']

end FirstSeen.Toml
