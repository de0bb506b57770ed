import EditorBridge.Json.Error
import EditorBridge.Text.Utf8

/-!
The words, numbers and strings of JSON text. A scanner takes the text from some place on and gives
what it has read and the text behind it, or a fault.

A number whose digits do not fit in 64 bits, or that has a fraction or an exponent, is a double. Its
first digits are taken as an integer, as many as fit, and that integer is multiplied or divided by a
power of ten.
-/

namespace EditorBridge.Json

/-- An error while a text is read, at a place that is given by the text behind it. A fault that is
not settled gets its place from the list or object around it. -/
structure Fault where
  cause : Cause
  place : List Char
  /-- The error is so many bytes behind the place. -/
  ahead : Nat
  isSettled : Bool

abbrev Result (α : Type) := Except Fault (α × List Char)

def failAt {α : Type} (cause : Cause) (place : List Char) : Except Fault α :=
  .error ⟨cause, place, 0, true⟩

/-- A fault that counts the byte at a place as read. -/
def failPast {α : Type} (cause : Cause) (place : List Char) : Except Fault α :=
  .error ⟨cause, place, 1, true⟩

def complain {α : Type} (cause : Cause) (place : List Char) : Except Fault α :=
  .error ⟨cause, place, 0, false⟩

def Fault.error (text : List Char) (fault : Fault) : ReadError :=
  let read := text.take (text.length - fault.place.length)
  ⟨fault.cause,
    if fault.isSettled then
      some (((Position.mk 1 0).after read).ahead fault.ahead fault.place)
    else none⟩

def isSpace (c : Char) : Bool := c = ' ' || c = '\n' || c = '\t' || c = '\r'

def skipSpace (s : List Char) : List Char := s.dropWhile isSpace

def word (rest : List Char) (s : List Char) : Except Fault (List Char) :=
  match rest, s with
  | [], s => .ok s
  | _ :: _, [] => failAt .endInValue []
  | expected :: more, c :: s =>
    if c = expected then word more s else failPast .expectedWord (c :: s)

def isDigit (c : Char) : Bool := '0' ≤ c && c ≤ '9'

def hexValue? (c : Char) : Option Nat :=
  if isDigit c then some (c.toNat - '0'.toNat)
  else if 'a' ≤ c && c ≤ 'f' then some (c.toNat - 'a'.toNat + 10)
  else if 'A' ≤ c && c ≤ 'F' then some (c.toNat - 'A'.toNat + 10)
  else none

def fourDigits (s : List Char) : Result Nat :=
  if Text.utf8Length (s.take 4) < 4 then failAt .endInString []
  else match (s.take 4).mapM hexValue? with
    | some [a, b, c, d] => .ok (((a * 16 + b) * 16 + c) * 16 + d, s.drop 4)
    | _ => .error ⟨.invalidEscape, s, 4, true⟩

def simpleEscape? (c : Char) : Option Char :=
  if c = '\x22' || c = '\\' || c = '/' then some c
  else if c = 'b' then some '\x08'
  else if c = 'f' then some '\x0c'
  else if c = 'n' then some '\n'
  else if c = 'r' then some '\r'
  else if c = 't' then some '\t'
  else none

/-- A character by its number. A number of the first half of a pair needs the second half. -/
def numberedEscape (s : List Char) : Result Char :=
  match fourDigits s with
  | .error fault => .error fault
  | .ok (n, rest) =>
    if 0xDC00 ≤ n && n ≤ 0xDFFF then failAt .loneSurrogate rest
    else if n < 0xD800 || 0xDBFF < n then .ok (Char.ofNat n, rest)
    else match rest with
      | [] => failAt .endInString []
      | '\\' :: [] => failAt .endInString []
      | '\\' :: 'u' :: after =>
        match fourDigits after with
        | .error fault => .error fault
        | .ok (m, rest) =>
          if m < 0xDC00 || 0xDFFF < m then failAt .loneSurrogate rest
          else .ok (Char.ofNat ((n - 0xD800) * 0x400 + (m - 0xDC00) + 0x10000), rest)
      | '\\' :: after => failPast .unfinishedSurrogate after
      | _ => failPast .unfinishedSurrogate rest

/-- A string behind its opening quote, with a bound on the number of characters. -/
def stringWithin : Nat → List Char → Result (List Char)
  | 0, _ => failAt .endInString []
  | _ + 1, [] => failAt .endInString []
  | n + 1, c :: rest =>
    let go := fun (shown : Char) (rest : List Char) =>
      (stringWithin n rest).map fun found => (shown :: found.1, found.2)
    if c = '\x22' then .ok ([], rest)
    else if c.toNat < 0x20 then failPast .controlCharacter (c :: rest)
    else if c = '\\' then
      match rest with
      | [] => failAt .endInString []
      | d :: after =>
        if d = 'u' then
          match numberedEscape after with
          | .error fault => .error fault
          | .ok (shown, rest) => go shown rest
        else match simpleEscape? d with
          | some shown => go shown after
          | none => failPast .invalidEscape rest
    else go c rest

def string (s : List Char) : Result String :=
  (stringWithin (s.length + 1) s).map fun found => (String.ofList found.1, found.2)

/-- Past a string behind its opening quote, whatever its escapes stand for. -/
def skipStringWithin : Nat → List Char → Except Fault (List Char)
  | 0, _ => failAt .endInString []
  | _ + 1, [] => failAt .endInString []
  | n + 1, c :: rest =>
    if c = '\x22' then .ok rest
    else if c.toNat < 0x20 then failAt .controlCharacter (c :: rest)
    else if c = '\\' then
      match rest with
      | [] => failAt .endInString []
      | d :: after =>
        if d = 'u' then
          match fourDigits after with
          | .error fault => .error fault
          | .ok (_, rest) => skipStringWithin n rest
        else if (simpleEscape? d).isSome then skipStringWithin n after
        else failPast .invalidEscape rest
    else skipStringWithin n rest

def skipString (s : List Char) : Except Fault (List Char) := skipStringWithin (s.length + 1) s

def greatestInteger : Nat := 18446744073709551615

/-- The integer of the first digits, as long as it fits in 64 bits. -/
def fittingDigits (n : Nat) : List Char → Nat × List Char
  | [] => (n, [])
  | c :: rest =>
    if isDigit c then
      let m := 10 * n + (c.toNat - '0'.toNat)
      if greatestInteger < m then (n, c :: rest) else fittingDigits m rest
    else (n, c :: rest)

def powerOfTen (n : Nat) : Decimal.Double :=
  (Decimal.Double.ofRatio? false (Nat.pow 10 n) 1).getD (Decimal.Double.zero false)

/-- Divides or multiplies a double by a power of ten, with a bound on the number of divisions by the
greatest power there is. -/
def scaleByTen : Nat → Decimal.Double → Int → Option Decimal.Double
  | 0, x, _ => some x
  | n + 1, x, e =>
    if e.natAbs ≤ 308 then
      if 0 ≤ e then x.times? (powerOfTen e.natAbs) else x.over? (powerOfTen e.natAbs)
    else if x.isZero then some x
    else if 0 ≤ e then none
    else (x.over? (powerOfTen 308)).bind fun y => scaleByTen n y (e + 308)

def double (isNegative : Bool) (significand : Nat) (e : Int) (rest : List Char) : Result Number :=
  match (Decimal.Double.ofRatio? isNegative significand 1).bind fun x => scaleByTen 5 x e with
  | some x => .ok (.double x, rest)
  | none => failAt .numberOutOfRange rest

def greatestTenfold : Nat := 2147483647

/-- The exponent of the first digits, and whether it is too great. -/
def exponentDigits (n : Nat) : List Char → Nat × Bool × List Char
  | [] => (n, false, [])
  | c :: rest =>
    if isDigit c then
      let m := 10 * n + (c.toNat - '0'.toNat)
      if greatestTenfold < m then (n, true, rest) else exponentDigits m rest
    else (n, false, c :: rest)

def withExponent (isNegative : Bool) (significand : Nat) (e : Int) (s : List Char) :
    Result Number :=
  let (isUp, s) := match s with
    | '+' :: rest => (true, rest)
    | '-' :: rest => (false, rest)
    | _ => (true, s)
  match s with
  | [] => failAt .endInValue []
  | c :: _ =>
    if !isDigit c then failPast .invalidNumber s
    else
      let (n, isTooGreat, rest) := exponentDigits 0 s
      if isTooGreat then
        if significand != 0 && isUp then failAt .numberOutOfRange rest
        else .ok (.double (.zero isNegative), rest.dropWhile isDigit)
      else double isNegative significand (if isUp then e + n else e - n) rest

def maybeExponent (isNegative : Bool) (significand : Nat) (e : Int) (s : List Char) :
    Result Number :=
  match s with
  | c :: rest =>
    if c = 'e' || c = 'E' then withExponent isNegative significand e rest
    else double isNegative significand e s
  | [] => double isNegative significand e s

def withFraction (isNegative : Bool) (significand : Nat) (e : Int) (s : List Char) :
    Result Number :=
  match s with
  | [] => failPast .endInValue []
  | c :: _ =>
    if !isDigit c then failPast .invalidNumber s
    else
      let (n, rest) := fittingDigits significand s
      maybeExponent isNegative n (e - (s.length - rest.length : Nat)) (rest.dropWhile isDigit)

def number (isNegative : Bool) (s : List Char) : Result Number :=
  match s with
  | [] => failAt .endInValue []
  | c :: after =>
    if !isDigit c then failPast .invalidNumber s
    else
      let (n, fitting) := if c = '0' then (0, after) else fittingDigits 0 s
      let rest := if c = '0' then fitting else fitting.dropWhile isDigit
      let e : Int := (fitting.length - rest.length : Nat)
      if c = '0' && rest.head?.any isDigit then failPast .invalidNumber rest
      else match rest with
        | '.' :: fraction => withFraction isNegative n e fraction
        | _ =>
          if rest.head?.any fun c => c = 'e' || c = 'E' then
            withExponent isNegative n e (rest.drop 1)
          else if e != 0 || (isNegative && (n = 0 || 9223372036854775808 < n)) then
            double isNegative n e rest
          else .ok (.integer (if isNegative then -n else n), rest)

def skipExponent (s : List Char) : Except Fault (List Char) :=
  let s := match s with
    | c :: rest => if c = '+' || c = '-' then rest else s
    | [] => s
  match s with
  | [] => failAt .invalidNumber []
  | c :: rest => if isDigit c then .ok (rest.dropWhile isDigit) else failPast .invalidNumber s

def skipFraction (s : List Char) : Except Fault (List Char) :=
  match s with
  | [] => .ok []
  | c :: rest =>
    if c = 'e' || c = 'E' then skipExponent rest
    else if c = '.' then
      let after := rest.dropWhile isDigit
      if after.length = rest.length then failPast .invalidNumber rest
      else match after with
        | [] => .ok []
        | d :: more => if d = 'e' || d = 'E' then skipExponent more else .ok after
    else .ok s

/-- Past a number behind its minus sign, of whatever size. -/
def skipNumber (s : List Char) : Except Fault (List Char) :=
  match s with
  | [] => failAt .invalidNumber []
  | c :: rest =>
    if c = '0' then
      if rest.head?.any isDigit then failPast .invalidNumber rest else skipFraction rest
    else if isDigit c then skipFraction (rest.dropWhile isDigit)
    else failPast .invalidNumber s

end EditorBridge.Json
