/-!
White space, and text without it at its ends.
-/

namespace EditorBridge.Text

/-- The white space of Unicode: the ASCII controls from tab to carriage return, the next line, and
every kind of space and separator. -/
def isBlank (c : Char) : Bool :=
  let n := c.toNat
  (9 ≤ n && n ≤ 13) || n = 0x20 || n = 0x85 || n = 0xA0 || n = 0x1680 ||
    (0x2000 ≤ n && n ≤ 0x200A) || n = 0x2028 || n = 0x2029 || n = 0x202F || n = 0x205F || n = 0x3000

def dropEndWhile (p : Char → Bool) (s : List Char) : List Char :=
  (s.reverse.dropWhile p).reverse

/-- Leaves out the characters at both ends that satisfy `p`. -/
def trimWhile (p : Char → Bool) (s : List Char) : List Char :=
  dropEndWhile p (s.dropWhile p)

def trimEnd (s : List Char) : List Char := dropEndWhile isBlank s

/-- Leaves out white space at both ends. -/
def trim (s : List Char) : List Char := trimWhile isBlank s

end EditorBridge.Text
