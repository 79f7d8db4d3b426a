/-!
How a value is shown for inspection. `Shown` is the skeleton of a value: bare text, a sequence, a
named tuple, a named record or a set. It has two layouts, one on a single line and one with a line
for each part, indented by four blanks for each enclosing part and with a comma after every part.
-/
namespace FirstSeen.Text

inductive Shown where
  | bare (text : String)
  | sequence (parts : List Shown)
  | tuple (name : String) (parts : List Shown)
  | record (name : String) (fields : List (String × Shown)) (hidden : Bool)
  | set (parts : List Shown)

namespace Shown

mutual

def inline : Shown → String
  | .bare text => text
  | .sequence parts => "[" ++ ", ".intercalate (inlineAll parts) ++ "]"
  | .tuple name parts => name ++ "(" ++ ", ".intercalate (inlineAll parts) ++ ")"
  | .record name fields hidden =>
    name ++ " \x7b "
      ++ ", ".intercalate (inlineFields fields ++ if hidden then [".."] else []) ++ " \x7d"
  | .set parts => "\x7b" ++ ", ".intercalate (inlineAll parts) ++ "\x7d"

def inlineAll : List Shown → List String
  | [] => []
  | part :: rest => part.inline :: inlineAll rest

def inlineFields : List (String × Shown) → List String
  | [] => []
  | (name, part) :: rest => (name ++ ": " ++ part.inline) :: inlineFields rest

end

def indent (line : String) : String := "    " ++ line

def closeLast (mark : String) : List String → List String
  | [] => [mark]
  | [line] => [line ++ mark]
  | line :: rest => line :: closeLast mark rest

def openFirst (mark : String) : List String → List String
  | [] => [mark]
  | line :: rest => (mark ++ line) :: rest

mutual

def lines : Shown → List String
  | .bare text => [text]
  | .sequence [] => ["[]"]
  | .sequence (part :: rest) => "[" :: (linesAll (part :: rest)).map indent ++ ["]"]
  | .tuple name parts => (name ++ "(") :: (linesAll parts).map indent ++ [")"]
  | .record name fields hidden =>
    (name ++ " \x7b") :: (linesFields fields ++ if hidden then [".."] else []).map indent
      ++ ["\x7d"]
  | .set [] => ["\x7b\x7d"]
  | .set (part :: rest) => "\x7b" :: (linesAll (part :: rest)).map indent ++ ["\x7d"]

def linesAll : List Shown → List String
  | [] => []
  | part :: rest => closeLast "," part.lines ++ linesAll rest

def linesFields : List (String × Shown) → List String
  | [] => []
  | (name, part) :: rest => openFirst (name ++ ": ") (closeLast "," part.lines) ++ linesFields rest

end

def spread (value : Shown) : String := "\n".intercalate value.lines

end Shown

end FirstSeen.Text
