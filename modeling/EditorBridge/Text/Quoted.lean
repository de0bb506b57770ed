import EditorBridge.Text.PrintableRanges
import EditorBridge.Text.Ranges

/-!
Quoted text. A text stands between double quotes; the quote, the backslash and the common controls
are written with a backslash, and a character that cannot be seen on its own by its code point in
hexadecimal digits.
-/

namespace EditorBridge.Text

/-- Whether a quoted text shows a character as it is. -/
def isPrintable (c : Char) : Bool :=
  let n := c.toNat
  if n < 0x7F then 0x20 ≤ n
  else !inRanges n extendingRanges && !inRanges n invisibleRanges

def escapeCodePoint (c : Char) : List Char :=
  ['\\', 'u', '\x7b'] ++ Nat.toDigits 16 c.toNat ++ ['\x7d']

def quotedChar (c : Char) : List Char :=
  if c = '\t' then ['\\', 't']
  else if c = '\n' then ['\\', 'n']
  else if c = '\r' then ['\\', 'r']
  else if c.toNat = 0 then ['\\', '0']
  else if c = '\x22' then ['\\', '\x22']
  else if c = '\\' then ['\\', '\\']
  else if isPrintable c then [c]
  else escapeCodePoint c

def quoted (s : String) : String :=
  String.ofList ('\x22' :: s.toList.flatMap quotedChar ++ ['\x22'])

end EditorBridge.Text
