import FirstSeen.Text.Printable

/-!
A text between double quotes, safe to put into a message: quotes and backslashes are escaped, and
whatever is not printable or would join its neighbour is written as its code point. One function
gives what stands for a character, and a quotation is that function along the text.
-/
namespace FirstSeen.Text

def codePointEscape (c : Char) : List Char :=
  ['\\', 'u', '\x7b'] ++ Nat.toDigits 16 c.toNat ++ ['\x7d']

def quotedChar (c : Char) : List Char :=
  if c = '\x00' then ['\\', '0']
  else if c = '\t' then ['\\', 't']
  else if c = '\r' then ['\\', 'r']
  else if c = '\n' then ['\\', 'n']
  else if c = '"' then ['\\', '"']
  else if c = '\\' then ['\\', '\\']
  else if isExtending c || !isPrintable c then codePointEscape c
  else [c]

def quoted (s : List Char) : List Char := '"' :: s.flatMap quotedChar ++ ['"']

def quote (s : String) : String := String.ofList (quoted s.toList)

end FirstSeen.Text
