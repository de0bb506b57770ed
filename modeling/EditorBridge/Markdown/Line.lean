import EditorBridge.Text.Punctuation

/-!
Scanners for the parts of a line. A scanner takes the rest of the document and gives what remains
after the part it looks for, or nothing if the part is not there. The end of the document counts as
the end of a line.
-/

namespace EditorBridge.Markdown

def isSpace (c : Char) : Bool := c = ' ' || c = '\t' || c = '\x0b' || c = '\x0c'

/-- The white space of ASCII, line ends included. -/
def isSpaceOrEnd (c : Char) : Bool := isSpace c || c = '\n' || c = '\r'

def isLineEnd (c : Char) : Bool := c = '\n' || c = '\r'

def lineEnd? : List Char → Option (List Char)
  | [] => some []
  | c :: rest =>
    if c = '\n' then some rest
    else if c = '\r' then
      match rest with
      | '\n' :: rest' => some rest'
      | _ => some rest
    else none

/-- Past a line that holds white space alone. -/
def blankLine? (s : List Char) : Option (List Char) := lineEnd? (s.dropWhile isSpace)

def skipBlankLine (s : List Char) : List Char := (blankLine? s).getD s

def isBlankLine (s : List Char) : Bool := (blankLine? s).isSome

/-- The text up to and including the next line feed, and what follows it. -/
def takeLine : List Char → List Char × List Char
  | [] => ([], [])
  | c :: rest =>
    if c = '\n' then ([c], rest)
    else
      let line := takeLine rest
      (c :: line.1, line.2)

def countLeading (c : Char) (s : List Char) : Nat := (s.takeWhile (· = c)).length

def isLetter (c : Char) : Bool := ('a' ≤ c && c ≤ 'z') || ('A' ≤ c && c ≤ 'Z')

def isDigit (c : Char) : Bool := '0' ≤ c && c ≤ '9'

def isLetterOrDigit (c : Char) : Bool := isLetter c || isDigit c

def numberOf (digits : List Char) : Nat :=
  digits.foldl (fun n d => 10 * n + (d.toNat - '0'.toNat)) 0

def startsWith (start s : List Char) : Bool := start.isPrefixOf s

def holds (part : List Char) : List Char → Bool
  | [] => part.isEmpty
  | c :: rest => startsWith part (c :: rest) || holds part rest

def thematicBreakFrom (mark : Char) (found : Nat) : List Char → Option (List Char)
  | [] => if 3 ≤ found then some [] else none
  | c :: rest =>
    if isLineEnd c then if 3 ≤ found then lineEnd? (c :: rest) else none
    else if c = mark then thematicBreakFrom mark (found + 1) rest
    else if c = ' ' || c = '\t' then thematicBreakFrom mark found rest
    else none

/-- Past a thematic break: three or more stars, hyphens or low lines on a line of their own. -/
def thematicBreak? : List Char → Option (List Char)
  | [] => none
  | c :: rest =>
    if c = '*' || c = '-' || c = '_' then thematicBreakFrom c 0 (c :: rest) else none

def numberSignLevel? (s : List Char) : Option Nat :=
  let level := countLeading '#' s
  let closed := match s.drop level with
    | [] => true
    | c :: _ => isSpaceOrEnd c
  if 1 ≤ level && level ≤ 6 && closed then some level else none

/-- The level of the heading that an underline makes of the paragraph above it, and what follows. -/
def underline? : List Char → Option (Nat × List Char)
  | [] => none
  | c :: rest =>
    if c = '=' || c = '-' then
      (blankLine? (rest.dropWhile (· = c))).map fun after => (if c = '=' then 1 else 2, after)
    else none

/-- A fence that opens a block of code: its character and length. What follows a fence of grave
accents on its line holds no other. -/
def codeFence? (s : List Char) : Option (Char × Nat) :=
  match s with
  | [] => none
  | c :: _ =>
    if c = '\x60' || c = '~' then
      let length := countLeading c s
      if length < 3 then none
      else if c = '\x60' && (takeLine (s.drop length)).1.contains '\x60' then none
      else some (c, length)
    else none

/-- Past a fence that closes a block of code, up to the end of its line. -/
def closingFence? (mark : Char) (length : Nat) (s : List Char) : Option (List Char) :=
  if s.isEmpty then some []
  else
    let found := countLeading mark s
    if found < length then none
    else
      let after := (s.drop found).dropWhile (· = ' ')
      if (lineEnd? after).isSome then some after else none

/-- Whether a text begins with a mark of a list item that may end a paragraph. Inside the
paragraph's own containers an ordered list has to begin with one, and an item has to be more than
its mark. -/
def listInterrupts (sameContainers : Bool) (s : List Char) : Bool :=
  match s with
  | [] => false
  | c :: rest =>
    let mark : Option (Bool × Nat × List Char) :=
      if c = '-' || c = '+' || c = '*' then some (true, 0, rest)
      else if isDigit c then
        let digits := s.takeWhile isDigit
        match s.dropWhile isDigit with
        | d :: after => if d = '.' || d = ')' then some (false, numberOf digits, after) else none
        | [] => none
      else none
    match mark with
    | none => false
    | some (bullet, number, after) =>
      let spaced := match after with
        | [] => true
        | d :: _ => d = ' ' || d = '\t' || isLineEnd d
      let empty := match blankLine? after with
        | none => false
        | some next => isBlankLine next
      spaced && (!sameContainers || ((bullet || number = 1) && !empty))

end EditorBridge.Markdown
