import EditorBridge.Toml.Node

/-!
The names, strings, numbers and dates of TOML. A scanner takes the text from some place on and gives
what it has read and the text behind it, or nothing if the text is not well formed.
-/

namespace EditorBridge.Toml

abbrev Scan (α : Type) := Option (α × List Char)

def isSpace (c : Char) : Bool := c = ' ' || c = '\t'

def skipSpace (s : List Char) : List Char := s.dropWhile isSpace

def lineEnd? : List Char → Option (List Char)
  | '\n' :: rest => some rest
  | '\r' :: '\n' :: rest => some rest
  | _ => none

/-- Whether a comment or a string may hold a character: tabs, but no other controls. -/
def isPlain (c : Char) : Bool := c = '\t' || (0x20 ≤ c.toNat && c.toNat != 0x7F)

def skipComment : List Char → List Char
  | '#' :: rest => rest.dropWhile isPlain
  | s => s

def isDigit (c : Char) : Bool := '0' ≤ c && c ≤ '9'

def digit? (base : Nat) (c : Char) : Option Nat :=
  let n :=
    if isDigit c then some (c.toNat - '0'.toNat)
    else if 'a' ≤ c && c ≤ 'f' then some (c.toNat - 'a'.toNat + 10)
    else if 'A' ≤ c && c ≤ 'F' then some (c.toNat - 'A'.toNat + 10)
    else none
  n.filter (· < base)

def numbered? (count : Nat) (s : List Char) : Scan Char :=
  match (s.take count).mapM (digit? 16) with
  | none => none
  | some digits =>
    let n := digits.foldl (fun n d => 16 * n + d) 0
    if digits.length = count && n.isValidChar then some (Char.ofNat n, s.drop count) else none

def escape? : List Char → Scan Char
  | [] => none
  | c :: rest =>
    if c = 'b' then some ('\x08', rest)
    else if c = 't' then some ('\t', rest)
    else if c = 'n' then some ('\n', rest)
    else if c = 'f' then some ('\x0c', rest)
    else if c = 'r' then some ('\r', rest)
    else if c = '\x22' || c = '\\' then some (c, rest)
    else if c = 'u' then numbered? 4 rest
    else if c = 'U' then numbered? 8 rest
    else none

/-- A string of one line behind its opening quote; one between double quotes has escapes. -/
def lineString (quote : Char) : Nat → List Char → Scan (List Char)
  | 0, _ => none
  | _ + 1, [] => none
  | n + 1, c :: rest =>
    if c = quote then some ([], rest)
    else if !isPlain c then none
    else if c = '\\' && quote = '\x22' then
      match escape? rest with
      | none => none
      | some (shown, rest) =>
        (lineString quote n rest).map fun found => (shown :: found.1, found.2)
    else (lineString quote n rest).map fun found => (c :: found.1, found.2)

/-- Past the line ends and white space that a backslash at the end of a line leaves out. -/
def skipLines : Nat → List Char → List Char
  | 0, s => s
  | n + 1, s =>
    let spaced := skipSpace s
    match lineEnd? spaced with
    | some rest => skipLines n rest
    | none => spaced

/-- A string of several lines behind its opening quotes. Up to two quotes may stand before the
closing ones. -/
def blockString (quote : Char) : Nat → List Char → Scan (List Char)
  | 0, _ => none
  | _ + 1, [] => none
  | n + 1, c :: rest =>
    let go := fun (shown : List Char) (rest : List Char) =>
      (blockString quote n rest).map fun found => (shown ++ found.1, found.2)
    if c = quote then
      let quotes := (c :: rest).takeWhile (· = quote)
      if quotes.length < 3 then go [c] rest
      else if 5 < quotes.length then none
      else some (quotes.drop 3, rest.drop (quotes.length - 1))
    else match lineEnd? (c :: rest) with
      | some rest => go ['\n'] rest
      | none =>
        if !isPlain c then none
        else if c = '\\' && quote = '\x22' then
          match lineEnd? (skipSpace rest) with
          | some after => go [] (skipLines after.length after)
          | none =>
            match escape? rest with
            | some (shown, rest) => go [shown] rest
            | none => none
        else go [c] rest

def stringRest (quote : Char) (rest : List Char) : Scan (List Char) :=
  match rest with
  | a :: b :: inside =>
    if a = quote && b = quote then
      let inside := (lineEnd? inside).getD inside
      blockString quote (inside.length + 1) inside
    else lineString quote (rest.length + 1) rest
  | _ => lineString quote (rest.length + 1) rest

/-- Whether a name without quotes may hold a character. -/
def isBare (c : Char) : Bool := c.isAlphanum || c = '_' || c = '-'

def key? (s : List Char) : Scan Key :=
  let found := match s with
    | [] => none
    | c :: rest =>
      if c = '\x22' || c = '\x27' then lineString c (rest.length + 1) rest
      else if isBare c then some (s.takeWhile isBare, s.dropWhile isBare)
      else none
  found.map fun (name, rest) => (⟨String.ofList name, ⟨s.length, rest.length⟩⟩, rest)

/-- The parts of a name that full stops join, with white space around them. -/
def keys? : Nat → List Char → Scan (List Key)
  | 0, _ => none
  | n + 1, s =>
    match key? (skipSpace s) with
    | none => none
    | some (key, rest) =>
      match skipSpace rest with
      | '.' :: more => (keys? n more).map fun found => (key :: found.1, found.2)
      | rest => some ([key], rest)

/-- The number of levels that values and names may have. -/
def depthLimit : Nat := 80

def path? (s : List Char) : Scan (List Key × Key) :=
  match keys? (s.length + 1) s with
  | none => none
  | some (keys, rest) =>
    match keys.getLast? with
    | none => none
    | some last => if depthLimit ≤ keys.length then none else some ((keys.dropLast, last), rest)

/-- More digits of a base, of which single low lines may separate any two. -/
def moreDigits (base : Nat) : List Char → List Char × List Char
  | [] => ([], [])
  | [c] => if (digit? base c).isSome then ([c], []) else ([], [c])
  | c :: d :: rest =>
    if (digit? base c).isSome then
      let (digits, after) := moreDigits base (d :: rest)
      (c :: digits, after)
    else if c = '_' && (digit? base d).isSome then
      let (digits, after) := moreDigits base rest
      (d :: digits, after)
    else ([], c :: d :: rest)

/-- Digits of a base. The first is no low line. -/
def digitsOf (base : Nat) (s : List Char) : List Char × List Char :=
  match s with
  | '_' :: _ => ([], s)
  | _ => moreDigits base s

def numberOf (base : Nat) (digits : List Char) : Nat :=
  digits.foldl (fun n c => base * n + (digit? base c).getD 0) 0

def bounded? (n : Int) : Option Int :=
  if -9223372036854775808 ≤ n && n ≤ 9223372036854775807 then some n else none

/-- A sign, if there is one: whether it is a minus, and the text behind it. -/
def sign (s : List Char) : Bool × List Char :=
  match s with
  | '-' :: rest => (true, rest)
  | '+' :: rest => (false, rest)
  | _ => (false, s)

/-- The digits of a decimal integer, which do not begin with a zero unless there is only one. -/
def decimalDigits? (s : List Char) : Scan (List Char) :=
  match s with
  | '0' :: rest => some (['0'], rest)
  | _ =>
    let (digits, rest) := digitsOf 10 s
    if digits.isEmpty then none else some (digits, rest)

def integer? (s : List Char) : Scan Int :=
  let based := fun (base : Nat) (rest : List Char) =>
    let (digits, rest) := digitsOf base rest
    if digits.isEmpty then none
    else (bounded? (numberOf base digits)).map fun n => (n, rest)
  match s with
  | '0' :: 'x' :: rest => based 16 rest
  | '0' :: 'o' :: rest => based 8 rest
  | '0' :: 'b' :: rest => based 2 rest
  | _ =>
    let (isNegative, unsigned) := sign s
    match decimalDigits? unsigned with
    | none => none
    | some (digits, rest) =>
      let n : Int := numberOf 10 digits
      (bounded? (if isNegative then -n else n)).map fun n => (n, rest)

/-- What is read for a decimal too large for a double: the negative ones are infinite, the others
are not well formed. -/
def excess? (isNegative : Bool) : Option Fraction :=
  if isNegative then some (.infinite true) else none

def decimal? (isNegative : Bool) (digits : List Char) (exponent : Int) : Option Fraction :=
  let significand := numberOf 10 digits
  let first := exponent + digits.length
  if significand = 0 || first < -400 then some (.finite (Decimal.Double.zero isNegative))
  else if 400 + (digits.takeWhile (· = '0')).length < first then excess? isNegative
  else
    let x := if 0 ≤ exponent then
        Decimal.Double.ofRatio? isNegative (significand * Nat.pow 10 exponent.toNat) 1
      else Decimal.Double.ofRatio? isNegative significand (Nat.pow 10 (-exponent).toNat)
    match x with
    | some x => some (.finite x)
    | none => excess? isNegative

def exponent? (s : List Char) : Scan Int :=
  let (isNegative, unsigned) := sign s
  let (digits, rest) := digitsOf 10 unsigned
  if digits.isEmpty then none
  else
    let n : Int := numberOf 10 (digits.dropWhile (· = '0') |>.take 9)
    some (if isNegative then -n else n, rest)

def beginsExponent : List Char → Bool
  | c :: _ => c = 'e' || c = 'E'
  | [] => false

def fraction? (s : List Char) : Scan Fraction :=
  let (isNegative, unsigned) := sign s
  if "inf".toList.isPrefixOf unsigned then some (.infinite isNegative, unsigned.drop 3)
  else if "nan".toList.isPrefixOf unsigned then some (.nan, unsigned.drop 3)
  else match decimalDigits? unsigned with
    | none => none
    | some (whole, rest) =>
      let part := match rest with
        | '.' :: after =>
          let (digits, rest) := digitsOf 10 after
          if digits.isEmpty then none else some (digits, rest)
        | _ => if beginsExponent rest then some ([], rest) else none
      match part with
      | none => none
      | some (places, rest) =>
        let exponent := if beginsExponent rest then exponent? (rest.drop 1) else some (0, rest)
        match exponent with
        | none => none
        | some (e, rest) =>
          (decimal? isNegative (whole ++ places) (e - places.length)).map fun x => (x, rest)

def field? (count low high : Nat) (s : List Char) : Option (Nat × List Char) :=
  let digits := s.take count
  let n := numberOf 10 digits
  if digits.length = count && digits.all isDigit && low ≤ n && n ≤ high then some (n, s.drop count)
  else none

def past? (c : Char) : List Char → Option (List Char)
  | d :: rest => if c = d then some rest else none
  | [] => none

def daysOf (year month : Nat) : Nat :=
  if month = 2 then
    if year % 4 = 0 && (year % 100 != 0 || year % 400 = 0) then 29 else 28
  else if month = 4 || month = 6 || month = 9 || month = 11 then 30
  else 31

def date? (s : List Char) : Option (List Char) := do
  let (year, s) ← field? 4 0 9999 s
  let (month, s) ← field? 2 1 12 (← past? '-' s)
  let (_, s) ← field? 2 1 (daysOf year month) (← past? '-' s)
  return s

def time? (s : List Char) : Option (List Char) := do
  let (_, s) ← field? 2 0 23 s
  let (_, s) ← field? 2 0 59 (← past? ':' s)
  let (_, s) ← field? 2 0 60 (← past? ':' s)
  match s with
  | '.' :: c :: rest => if isDigit c then return rest.dropWhile isDigit else return s
  | _ => return s

def distance? (s : List Char) : Option (List Char) := do
  let (_, s) ← field? 2 0 23 s
  let (_, s) ← field? 2 0 59 (← past? ':' s)
  return s

/-- Past the distance to universal time, if there is one. -/
def skipOffset (s : List Char) : List Char :=
  match s with
  | [] => []
  | c :: rest =>
    if c = 'Z' || c = 'z' then rest
    else if c = '+' || c = '-' then (distance? rest).getD s
    else s

def dateTime? (s : List Char) : Option (List Char) :=
  match date? s with
  | none => time? s
  | some rest =>
    match rest with
    | c :: after =>
      if c = 'T' || c = 't' || c = ' ' then
        match time? after with
        | some rest => some (skipOffset rest)
        | none => some rest
      else some rest
    | [] => some []

end EditorBridge.Toml
