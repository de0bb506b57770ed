import EditorBridge.Markdown.Entity
import EditorBridge.Markdown.Node

/-!
Where links lead: the bracketed label that names a definition, the destination of a link, and
addresses between angle brackets.
-/

namespace EditorBridge.Markdown

/-- Reads white space inside a label. At a line end the scan goes on where `onEnd` says; a second
line end or one that `onEnd` refuses is no part of a label. Gives the white space left to count, and
what follows it. -/
def labelSpace? (onEnd : List Char → Option (List Char)) :
    Nat → (ended : Bool) → (weight : Nat) → List Char → Option (Nat × List Char)
  | 0, _, weight, s => some (weight, s)
  | n + 1, ended, weight, s =>
    match s with
    | [] => some (weight, [])
    | c :: rest =>
      if !isSpaceOrEnd c then some (weight, c :: rest)
      else match lineEnd? (c :: rest) with
        | some after =>
          if ended then none
          else (onEnd after).bind fun next => labelSpace? onEnd n true (weight + 2) next
        | none => labelSpace? onEnd n ended (weight + if c = ' ' then 1 else 2) rest

/-- The number of bytes of a character in a label that count towards its length. -/
def labelWeight (c : Char) : Nat := if c.toNat < 0x80 then 0 else c.utf8Size

/-- Reads a label behind its opening bracket, with a bound on the number of steps. `blank` tells
whether only white space has been read, and `weight` what has been read of the length. -/
def labelWithin? (onEnd : List Char → Option (List Char)) :
    Nat → (blank : Bool) → (weight : Nat) → List Char → Option (List Char × List Char)
  | 0, _, _, _ => none
  | n + 1, blank, weight, s =>
    if 1000 ≤ weight then none
    else match s with
      | [] => none
      | c :: rest =>
        if c = '[' then none
        else if c = ']' then if blank then none else some ([], rest)
        else if c = '\\' then
          match rest with
          | [] => none
          | d :: after =>
            (labelWithin? onEnd n false (weight + 2 + (d.utf8Size - 1)) after).map
              fun label => (c :: d :: label.1, label.2)
        else if isSpaceOrEnd c then
          match labelSpace? onEnd (rest.length + 1) false 0 (c :: rest) with
          | none => none
          | some (spaces, after) =>
            let counted := if 1 < spaces then (c :: rest).length - after.length else 1
            (labelWithin? onEnd n blank (weight + counted) after).map
              fun label => (' ' :: label.1, label.2)
        else
          (labelWithin? onEnd n false (weight + labelWeight c) rest).map
            fun label => (c :: label.1, label.2)

/-- Reads a label behind its opening bracket, up to the closing one. White space in it becomes one
space. -/
def label? (onEnd : List Char → Option (List Char)) (s : List Char) :
    Option (List Char × List Char) :=
  labelWithin? onEnd (s.length + 1) true 0 s

/-- Reads a destination between angle brackets, of which the first has been read. -/
def pointyDestination? : List Char → Option (List Char × List Char)
  | [] => none
  | '\\' :: c :: rest =>
    if Text.isAsciiPunctuation c then
      (pointyDestination? rest).map fun found => ('\\' :: c :: found.1, found.2)
    else if isLineEnd c then none
    else (pointyDestination? rest).map fun found => ('\\' :: c :: found.1, found.2)
  | c :: rest =>
    if c = '>' then some ([], rest)
    else if isLineEnd c || c = '<' then none
    else (pointyDestination? rest).map fun found => (c :: found.1, found.2)

/-- Reads a destination without brackets, inside `nested` parentheses of which at most `limit + 1`
may be open. It ends at white space, a control, or a parenthesis that closes more than it opened. -/
def bareDestination? (limit nested : Nat) : List Char → Option (List Char × List Char)
  | [] => some ([], [])
  | '\\' :: c :: rest =>
    if Text.isAsciiPunctuation c then
      (bareDestination? limit nested rest).map fun found => ('\\' :: c :: found.1, found.2)
    else if c.toNat ≤ 0x20 then some (['\\'], c :: rest)
    else (bareDestination? limit nested rest).map fun found => ('\\' :: c :: found.1, found.2)
  | c :: rest =>
    if c.toNat ≤ 0x20 then some ([], c :: rest)
    else if c = '(' then
      if limit < nested then none
      else (bareDestination? limit (nested + 1) rest).map fun found => (c :: found.1, found.2)
    else if c = ')' then
      if nested = 0 then some ([], c :: rest)
      else (bareDestination? limit (nested - 1) rest).map fun found => (c :: found.1, found.2)
    else (bareDestination? limit nested rest).map fun found => (c :: found.1, found.2)

/-- Reads a destination, with its escapes and entities as they are written. -/
def destination? (limit : Nat) : List Char → Option (List Char × List Char)
  | '<' :: rest => pointyDestination? rest
  | s => bareDestination? limit 0 s

/-- Reads the title of a definition up to its closing quote. It has no blank line. -/
def titleRest? (close : Char) : Nat → List Char → Option (List Char × List Char)
  | 0, _ => none
  | _ + 1, [] => none
  | _ + 1, ['\\'] => none
  | n + 1, '\\' :: c :: rest =>
    (titleRest? close n rest).map fun found => ('\\' :: c :: found.1, found.2)
  | n + 1, c :: rest =>
    if c = close then some ([], rest)
    else if c = '\n' then
      let indent := rest.takeWhile isSpace
      match rest.drop indent.length with
      | [] => none
      | d :: after =>
        if d = '\n' then none
        else (titleRest? close n (d :: after)).map fun found =>
          (c :: (indent ++ found.1), found.2)
    else (titleRest? close n rest).map fun found => (c :: found.1, found.2)

def titleClose? (c : Char) : Option Char :=
  if c = '\x22' || c = '\x27' then some c else if c = '(' then some ')' else none

def definitionTitle? (s : List Char) : Option (List Char × List Char) :=
  match s with
  | [] => none
  | c :: rest => (titleClose? c).bind fun close => titleRest? close (rest.length + 1) rest

/-- An address with a scheme, up to the closing angle bracket, and what follows it. -/
def schemeAddress? (s : List Char) : Option (List Char × List Char) :=
  let scheme := s.takeWhile fun c => isLetterOrDigit c || c = '.' || c = '-' || c = '+'
  match s, s.drop scheme.length with
  | first :: _, ':' :: path =>
    let path := path.takeWhile fun c => !(c.toNat ≤ 0x20 || c = '<' || c = '>')
    if isLetter first && 2 ≤ scheme.length && scheme.length ≤ 32 then
      match s.drop (scheme.length + 1 + path.length) with
      | '>' :: rest => some (scheme ++ ':' :: path, rest)
      | _ => none
    else none
  | _, _ => none

/-- Whether a mail address may have a character before its at sign. -/
def isMailbox (c : Char) : Bool :=
  isLetterOrDigit c || ".!#$%&'*+/=?^_\x60\x7b|\x7d~-".toList.contains c

/-- Reads the labels of a domain, which full stops join. -/
def domain? : Nat → List Char → Option (List Char × List Char)
  | 0, _ => none
  | n + 1, s =>
    let label := s.takeWhile fun c => isLetterOrDigit c || c = '-'
    if label.isEmpty || 63 < label.length || label.head? = some '-' || label.getLast? = some '-'
    then none
    else match s.drop label.length with
      | '.' :: rest => (domain? n rest).map fun found => (label ++ '.' :: found.1, found.2)
      | rest => some (label, rest)

/-- A mail address up to the closing angle bracket, and what follows it. -/
def mailAddress? (s : List Char) : Option (List Char × List Char) :=
  let mailbox := s.takeWhile isMailbox
  match s.drop mailbox.length with
  | '@' :: rest =>
    match domain? (rest.length + 1) rest with
    | some (domain, '>' :: after) => some (mailbox ++ '@' :: domain, after)
    | _ => none
  | _ => none

/-- The target that an address between angle brackets names, of which the first bracket has been
read, and what follows the second. -/
def address? (s : List Char) : Option (Target × List Char) :=
  match schemeAddress? s with
  | some (address, rest) => some (⟨String.ofList address, "", false⟩, rest)
  | none => (mailAddress? s).map fun found => (⟨String.ofList found.1, "", true⟩, found.2)

end EditorBridge.Markdown
