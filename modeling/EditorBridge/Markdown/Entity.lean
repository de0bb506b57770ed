import EditorBridge.Markdown.EntityNames
import EditorBridge.Markdown.Line

/-!
Characters written by name or by number, and texts in which they and escapes are resolved. A name or
number that stands for no character is ordinary text.
-/

namespace EditorBridge.Markdown

def hexDigit? (c : Char) : Option Nat :=
  if isDigit c then some (c.toNat - '0'.toNat)
  else if 'a' ≤ c && c ≤ 'f' then some (c.toNat - 'a'.toNat + 10)
  else if 'A' ≤ c && c ≤ 'F' then some (c.toNat - 'A'.toNat + 10)
  else none

def hexNumberOf (digits : List Char) : Nat :=
  digits.foldl (fun n d => 16 * n + (hexDigit? d).getD 0) 0

/-- The characters of a table entry: code points joined by plus signs. -/
def entryValue (found : List Char) : Nat → List Char → List Char
  | n, [] => found ++ [Char.ofNat n]
  | n, c :: rest =>
    if c = ' ' then found ++ [Char.ofNat n]
    else if c = '+' then entryValue (found ++ [Char.ofNat n]) 0 rest
    else entryValue found (16 * n + (hexDigit? c).getD 0) rest

/-- Looks a name up in a table; `atName` tells whether an entry begins here. -/
def entryIn (name : List Char) (atName : Bool) : List Char → Option (List Char)
  | [] => none
  | c :: rest =>
    if atName && startsWith (name ++ ['=']) (c :: rest) then
      some (entryValue [] 0 ((c :: rest).drop (name.length + 1)))
    else entryIn name (c = ' ') rest

def namedCharacters? (name : List Char) : Option (List Char) :=
  if name.isEmpty then none else entryIn name true entityTable.toList

/-- The character with a number; zero stands for the replacement character. -/
def numberedCharacter? (n : Nat) : Option Char :=
  if n = 0 then some (Char.ofNat 0xFFFD)
  else if n.isValidChar then some (Char.ofNat n)
  else none

/-- A character by number: its digits, which a semicolon follows. -/
def closedNumber? (isOne : Char → Bool) (value : List Char → Nat) (s : List Char) :
    Option (List Char × List Char) :=
  let digits := s.takeWhile isOne
  match digits, s.drop digits.length with
  | _ :: _, ';' :: rest => (numberedCharacter? (value digits)).map fun c => ([c], rest)
  | _, _ => none

/-- Reads a character by name or number at the beginning of a text, and gives what it stands for and
the text after it. -/
def entity? : List Char → Option (List Char × List Char)
  | '&' :: '#' :: x :: rest =>
    if x = 'x' || x = 'X' then closedNumber? (fun c => (hexDigit? c).isSome) hexNumberOf rest
    else closedNumber? isDigit numberOf (x :: rest)
  | '&' :: rest =>
    let name := rest.takeWhile isLetterOrDigit
    match rest.drop name.length with
    | ';' :: after => (namedCharacters? name).map fun value => (value, after)
    | _ => none
  | _ => none

/-- Resolves escapes and entities with a bound on the number of steps. -/
def resolvedWithin : Nat → List Char → List Char
  | 0, _ => []
  | _ + 1, [] => []
  | n + 1, '\\' :: c :: rest =>
    if Text.isAsciiPunctuation c then c :: resolvedWithin n rest
    else '\\' :: resolvedWithin n (c :: rest)
  | n + 1, c :: rest =>
    if c = '\r' then resolvedWithin n rest
    else match entity? (c :: rest) with
      | some (value, after) => value ++ resolvedWithin n after
      | none => c :: resolvedWithin n rest

/-- A text with its escapes and entities resolved and without carriage returns. -/
def resolved (s : List Char) : List Char := resolvedWithin s.length s

end EditorBridge.Markdown
