import EditorBridge.Text.Ranges
import EditorBridge.Text.PunctuationRanges

/-!
Punctuation. In ASCII it includes the symbols; past ASCII it is the general categories of
punctuation alone.
-/

namespace EditorBridge.Text

/-- The ASCII characters that are neither letters, digits, controls nor the space. -/
def isAsciiPunctuation (c : Char) : Bool :=
  let n := c.toNat
  (0x21 ≤ n && n ≤ 0x2F) || (0x3A ≤ n && n ≤ 0x40) || (0x5B ≤ n && n ≤ 0x60) ||
    (0x7B ≤ n && n ≤ 0x7E)

def isPunctuation (c : Char) : Bool :=
  if c.toNat < 0x80 then isAsciiPunctuation c else inRanges c.toNat punctuationRanges

end EditorBridge.Text
