/-!
What stands between the parts of a TOML document. Inside a line there may be spaces and tabs; a line
may end with a comment, which holds no control character but the tab; lines end with a line feed,
which may have a carriage return in front of it. A carriage return alone is none of these. Inside an
array, spaces, comments and line ends may all come together.

A reader takes something from the front of a text and hands back the rest.
-/
namespace FirstSeen.Toml

abbrev Reader (α : Type) := List Char → Option (α × List Char)

def isSpace (c : Char) : Bool := c = ' ' || c = '\t'

def skipSpace (s : List Char) : List Char := s.dropWhile isSpace

def isCommentChar (c : Char) : Bool := c = '\t' || (0x20 ≤ c.toNat && c.toNat ≠ 0x7F)

def skipComment : List Char → List Char
  | '#' :: rest => rest.dropWhile isCommentChar
  | s => s

def newline? : List Char → Option (List Char)
  | '\n' :: rest => some rest
  | '\r' :: '\n' :: rest => some rest
  | _ => none

def lineEnd? (s : List Char) : Option (List Char) :=
  match skipComment (skipSpace s) with
  | [] => some []
  | s => newline? s

def skipFiller : Bool → List Char → List Char
  | _, [] => []
  | inComment, c :: rest =>
    if c = '\n' then skipFiller false rest
    else if c = '\r' then
      match rest with
      | '\n' :: rest => skipFiller false rest
      | _ => c :: rest
    else if inComment then if isCommentChar c then skipFiller true rest else c :: rest
    else if isSpace c then skipFiller false rest
    else if c = '#' then skipFiller true rest
    else c :: rest

end FirstSeen.Toml
