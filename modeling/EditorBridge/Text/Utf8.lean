/-!
UTF-8. A sequence of bytes is read strictly, or every part of it that is no character is read as the
replacement character: a byte that begins none, or the beginning of a character up to the first byte
that cannot go on with it.
-/

namespace EditorBridge.Text

def utf8 (s : List Char) : List UInt8 := s.flatMap String.utf8EncodeChar

def utf8Length (s : List Char) : Nat := s.foldl (fun n c => n + c.utf8Size) 0

def replacement : Char := Char.ofNat 0xFFFD

/-- The number of bytes of the character that a byte begins, the bits of it that the byte holds, and
the range of the byte after it. -/
def utf8Lead? (b : UInt8) : Option (Nat × Nat × Nat × Nat) :=
  let n := b.toNat
  if n < 0x80 then some (1, n, 0, 0)
  else if 0xC2 ≤ n && n ≤ 0xDF then some (2, n - 0xC0, 0x80, 0xBF)
  else if n = 0xE0 then some (3, 0, 0xA0, 0xBF)
  else if n = 0xED then some (3, 0xD, 0x80, 0x9F)
  else if 0xE1 ≤ n && n ≤ 0xEF then some (3, n - 0xE0, 0x80, 0xBF)
  else if n = 0xF0 then some (4, 0, 0x90, 0xBF)
  else if 0xF1 ≤ n && n ≤ 0xF3 then some (4, n - 0xF0, 0x80, 0xBF)
  else if n = 0xF4 then some (4, 4, 0x80, 0x8F)
  else none

/-- Reads the `missing` bytes of a character, of which `bits` have been read; the next byte has to
be from `low` to `high`. Gives the character, if there is one, and what follows the bytes that fit.
-/
def utf8Rest (missing bits low high : Nat) : List UInt8 → Option Char × List UInt8
  | [] => (if missing = 0 then some (Char.ofNat bits) else none, [])
  | b :: rest =>
    if missing = 0 then (some (Char.ofNat bits), b :: rest)
    else if low ≤ b.toNat && b.toNat ≤ high then
      utf8Rest (missing - 1) (bits * 64 + (b.toNat - 0x80)) 0x80 0xBF rest
    else (none, b :: rest)

/-- The characters of bytes, with nothing for each part that is no character, and with a bound on
their number. -/
def utf8Within : Nat → List UInt8 → List (Option Char)
  | 0, _ => []
  | _ + 1, [] => []
  | n + 1, b :: rest =>
    match utf8Lead? b with
    | none => none :: utf8Within n rest
    | some (length, bits, low, high) =>
      let (c, rest) := utf8Rest (length - 1) bits low high rest
      c :: utf8Within n rest

/-- The characters of bytes, with nothing for each part that is no character. -/
def utf8Parts (bytes : List UInt8) : List (Option Char) := utf8Within bytes.length bytes

def ofUtf8Lossy (bytes : List UInt8) : List Char :=
  (utf8Parts bytes).map fun c => c.getD replacement

def ofUtf8? (bytes : List UInt8) : Option (List Char) := (utf8Parts bytes).mapM id

end EditorBridge.Text
