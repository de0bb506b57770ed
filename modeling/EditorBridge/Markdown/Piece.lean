import EditorBridge.Markdown.Entity
import EditorBridge.Markdown.Node
import EditorBridge.Text.Blank

/-!
Lines of text cut into pieces. A piece is a stretch of the document that a line of text is made of:
plain text, a run of delimiters, a bracket, a line break. What delimiters and brackets come to is
found out later, when all pieces of a paragraph are there.

A place in a document is what follows it, so of two places the one with the shorter text comes
later.
-/

namespace EditorBridge.Markdown

/-- A place in a document, as the text from there on. -/
abbrev Place := List Char

def between (start stop : Place) : List Char := start.take (start.length - stop.length)

theorem between_append (s stop : List Char) : between (s ++ stop) stop = s := by
  simp [between]

inductive Mark where
  /-- The document's text. -/
  | text
  /-- Text that is not written so in the document. -/
  | given (s : List Char)
  /-- Markup of another language. -/
  | html
  | softBreak
  | hardBreak
  /-- A run of stars or low lines that may open or close emphasis. -/
  | delimiter (mark : Char) (count : Nat) (opens closes : Bool)
  /-- A run of grave accents, of which the first may be escaped. -/
  | ticks (count : Nat) (escaped : Bool)
  /-- A less-than sign. -/
  | angle
  /-- A bracket that may open a link, or an image if an exclamation mark is before it. -/
  | bracket (isImage : Bool)
  /-- A bracket that may close a link; `tried` if it has already failed to close a label. -/
  | closing (tried : Bool)
  /-- A finished node. -/
  | node (n : Node)

structure Piece where
  start : Place
  stop : Place
  mark : Mark

namespace Piece

def source (p : Piece) : List Char := between p.start p.stop

def text? (start stop : Place) (length : Nat) : List Piece :=
  if length = 0 then [] else [⟨start, stop, .text⟩]

def isTextUpTo (place : Place) (p : Piece) : Bool :=
  match p.mark with
  | .text => p.stop.length = place.length
  | _ => false

end Piece

/-- Adds text at the end of pieces; text that goes on where the last piece of text ends becomes part
of it. -/
def appendText (pieces : List Piece) (start stop : Place) : List Piece :=
  match pieces.getLast? with
  | some p =>
    if p.isTextUpTo start then pieces.dropLast ++ [{ p with stop := stop }]
    else pieces ++ [⟨start, stop, .text⟩]
  | none => [⟨start, stop, .text⟩]

/-- Whether a run of delimiters can open emphasis: not before white space, and, unless it is a run
of stars before a word, only after white space or punctuation. -/
def opensEmphasis (mark before : Char) (after : List Char) : Bool :=
  match after with
  | [] => false
  | next :: _ =>
    !Text.isBlank next &&
      (mark = '*' && !Text.isPunctuation next || Text.isBlank before || Text.isPunctuation before)

/-- Whether a run of delimiters can close emphasis: not after white space, and, unless it is a run
of stars after a word, only before white space or punctuation. -/
def closesEmphasis (mark before : Char) (after : List Char) : Bool :=
  !Text.isBlank before &&
    match after with
    | [] => true
    | next :: _ =>
      mark = '*' && !Text.isPunctuation before || Text.isBlank next || Text.isPunctuation next

inductive Beginning where
  /-- Characters that stand for themselves. -/
  | plain (length : Nat)
  /-- A backslash that makes the next character plain. -/
  | escape
  /-- A piece `skipped` characters further on, so long in all. -/
  | piece (skipped length : Nat) (mark : Mark)

def beginning (before : Char) (s : Place) : Beginning :=
  match s with
  | [] => .plain 1
  | c :: rest =>
    if c = '\\' then
      match rest with
      | [] => .plain 1
      | d :: after =>
        if d = '\x60' then
          let count := 1 + countLeading '\x60' after
          .piece 1 (count + 1) (.ticks count true)
        else if Text.isAsciiPunctuation d then .escape
        else .plain 1
    else if c = '*' || c = '_' then
      let count := countLeading c s
      let opens := opensEmphasis c before (s.drop count)
      let closes := closesEmphasis c before (s.drop count)
      if opens || closes then .piece 0 count (.delimiter c count opens closes) else .plain count
    else if c = '\x60' then
      let count := countLeading c s
      .piece 0 count (.ticks count false)
    else if c = '<' then .piece 0 1 .angle
    else if c = '!' then if startsWith ['['] rest then .piece 0 2 (.bracket true) else .plain 1
    else if c = '[' then .piece 0 1 (.bracket false)
    else if c = ']' then .piece 0 1 (.closing false)
    else if c = '&' then
      match entity? s with
      | some (value, after) => .piece 0 (s.length - after.length) (.given value)
      | none => .plain 1
    else .plain 1

/-- Cuts the next `left` characters of a line into pieces. `plain` characters of text have been read
since the place `mark`. -/
def cutWithin : Nat → (left : Nat) → (before : Char) → (plain : Nat) → (mark s : Place) → List Piece
  | 0, _, _, plain, mark, s => Piece.text? mark s plain
  | n + 1, left, before, plain, mark, s =>
    if left = 0 then Piece.text? mark s plain
    else
      let lastOf := fun length => (s.take length).getLastD before
      match beginning before s with
      | .plain length =>
        cutWithin n (left - length) (lastOf length) (plain + length)
          (if plain = 0 then s else mark) (s.drop length)
      | .escape =>
        Piece.text? mark s plain ++
          cutWithin n (left - 2) (lastOf 2) 1 (s.drop 1) (s.drop 2)
      | .piece skipped length kind =>
        let after := s.drop length
        Piece.text? mark s plain ++
          ⟨s.drop skipped, after, kind⟩ :: cutWithin n (left - length) (lastOf length) 0 after after

def cut (length : Nat) (before : Char) (s : Place) : List Piece :=
  cutWithin length length before 0 s s

def countTrailing (p : Char → Bool) (s : List Char) : Nat := (s.reverse.takeWhile p).length

structure TextLine where
  pieces : List Piece
  /-- The break at its end; the last line of a document has none. -/
  lineBreak : Option Piece
  /-- Where the next line begins. -/
  next : Place

/-- The line break after a line's text that has `length` characters, and how many of them are text.
A backslash before the line end makes a hard break, and so do two characters of white space. At the
end of the document a backslash is text. -/
def breakAfter (line : List Char) (next : Place) : Nat × Mark :=
  let spaces := countTrailing isSpace line
  if countTrailing (· = '\\') line % 2 = 1 && !next.isEmpty then (line.length - 1, .hardBreak)
  else if 2 ≤ spaces then (line.length - spaces, .hardBreak)
  else (line.length, .softBreak)

def textLine (before : Char) (s : Place) : TextLine :=
  let line := s.takeWhile fun c => !isLineEnd c
  let lineEnd := s.drop line.length
  match lineEnd with
  | [] => ⟨cut line.length before s, none, []⟩
  | _ :: _ =>
    let next := (lineEnd? lineEnd).getD []
    let (length, mark) := breakAfter line next
    ⟨cut length before s, some ⟨s.drop length, next, mark⟩, next⟩

def TextLine.backslash? (line : TextLine) : Option Place :=
  match line.lineBreak with
  | some ⟨start, _, .hardBreak⟩ => if startsWith ['\\'] start then some start else none
  | _ => none

end EditorBridge.Markdown
