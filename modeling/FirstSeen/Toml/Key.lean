import FirstSeen.Toml.Quoted

/-!
Keys of a TOML document: one part or several with dots between them. A part is a row of ASCII
letters, digits, underscores and hyphens, or a text quoted on one line; spaces may stand around
every part. A key of eighty parts is refused.
-/
namespace FirstSeen.Toml

def isBareKeyChar (c : Char) : Bool := c.isAlphanum || c = '_' || c = '-'

def keyPart : Reader (List Char)
  | [] => none
  | c :: rest =>
    if c = '"' then basicLine .outside rest
    else if c = '\'' then literalLine rest
    else
      match (c :: rest).takeWhile isBareKeyChar with
      | [] => none
      | part => some (part, (c :: rest).dropWhile isBareKeyChar)

def partLimit : Nat := 79

def keyParts : Nat → Reader (List String)
  | 0, _ => none
  | limit + 1, s => do
    let (part, rest) ← keyPart (skipSpace s)
    let part := String.ofList part
    match skipSpace rest with
    | '.' :: rest => do
      let (parts, rest) ← keyParts limit rest
      return (part :: parts, rest)
    | rest => return ([part], rest)

def key (s : List Char) : Option (List String × List Char) := keyParts partLimit s

end FirstSeen.Toml
