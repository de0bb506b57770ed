/-!
Percent encoding: a byte as a percent sign and two hexadecimal digits.
-/

namespace EditorBridge.Text

/-- The upper-case hexadecimal digit of a number below sixteen. -/
def upperHexDigit (n : Nat) : Char := Char.ofNat (if n < 10 then n + 0x30 else n + 0x37)

def percentByte (b : UInt8) : List Char :=
  ['%', upperHexDigit (b.toNat / 16), upperHexDigit (b.toNat % 16)]

/-- A character in percent encoding, one byte after the other. -/
def percentChar (c : Char) : List Char := (String.utf8EncodeChar c).flatMap percentByte

end EditorBridge.Text
