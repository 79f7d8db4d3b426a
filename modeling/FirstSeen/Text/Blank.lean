/-!
White space as Unicode's `White_Space` property has it: 25 characters, of which the six ASCII ones
are the characters U+0009 to U+000D and the space. Trimming removes them at both ends of a text.
-/
namespace FirstSeen.Text

def isBlank (c : Char) : Bool :=
  let n := c.toNat
  (9 ≤ n && n ≤ 13) || n == 0x20 || n == 0x85 || n == 0xA0 || n == 0x1680
    || (0x2000 ≤ n && n ≤ 0x200A) || n == 0x2028 || n == 0x2029 || n == 0x202F || n == 0x205F
    || n == 0x3000

def trimStart (s : List Char) : List Char := s.dropWhile isBlank

def trim (s : List Char) : List Char := ((trimStart s).reverse.dropWhile isBlank).reverse

end FirstSeen.Text
