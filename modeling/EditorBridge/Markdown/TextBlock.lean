import EditorBridge.Markdown.Block
import EditorBridge.Markdown.RawHtml

/-!
Headings and paragraphs. A paragraph goes on until a blank line or until a line begins another
block; an underline makes a heading of it.
-/

namespace EditorBridge.Markdown

/-- Whether the text of a line, behind less than four columns, ends the paragraph above it.
`inside` tells whether the line is inside the paragraph's containers. -/
def interrupts (inside : Bool) (s : List Char) : Bool :=
  (lineEnd? s).isSome || (thematicBreak? s).isSome || (numberSignLevel? s).isSome ||
    (codeFence? s).isSome || startsWith ['>'] s || listInterrupts inside s || rawInterrupts s

/-- The number of characters of a heading that are text: white space, number signs behind white
space and white space before them are left out at its end. -/
def headingLength (s : List Char) : Nat :=
  let trimmed := Text.dropEndWhile (fun c => c = '\n' || c = '\r' || c = ' ') s
  let opened := Text.dropEndWhile (· = '#') trimmed
  let spaced := Text.dropEndWhile (· = ' ') opened
  if opened.isEmpty then 0
  else if spaced.length < opened.length then spaced.length
  else trimmed.length

def endLastAt (stop : Piece → Place) (pieces : List Piece) : List Piece :=
  match pieces.getLast? with
  | none => []
  | some last => pieces.dropLast ++ [{ last with stop := stop last }]

/-- Adds the backslash of a hard break, which is text at the end of a heading. -/
def appendBackslash (line : TextLine) (pieces : List Piece) : List Piece :=
  match line.backslash? with
  | some place => appendText pieces place (place.drop 1)
  | none => pieces

def numberSignHeading (level : Nat) (start : Place) : Block × Place :=
  let after := start.drop level
  match lineEnd? after with
  | some next => (.group (.heading level) start next [], next)
  | none =>
    let content := after.dropWhile isSpace
    let line := textLine ' ' content
    let stop := content.drop (headingLength (between content line.next))
    let pieces := endLastAt (fun _ => stop) (appendBackslash line line.pieces)
    (.ofPieces (.heading level) start line.next pieces, line.next)

/-- Leaves out the white space at the end of a piece. -/
def trimmedStop (p : Piece) : Place :=
  p.start.drop (p.source.length - countTrailing isSpace p.source)

/-- Reads the lines of a paragraph, with a bound on their number. Gives the level of the heading
that it turns out to be, and where the next block begins. -/
def paragraphLines (containers : List Container) :
    Nat → (before : Char) → List Piece → Place → List Piece × Option Nat × Place
  | 0, _, pieces, start => (pieces, none, start)
  | n + 1, before, pieces, start =>
    let line := textLine before start
    let pieces := pieces ++ line.pieces
    let (left, m) := enterAll (.ofLine line.next) containers
    let (missing, after) := m.take 4
    let heading := if missing = 0 || !left.isEmpty then none else underline? after.rest
    match heading with
    | some (level, next) =>
      let pieces :=
        if line.backslash?.isSome then appendBackslash line pieces
        else endLastAt trimmedStop pieces
      (pieces, some level, next)
    | none =>
      let content := after.rest.dropWhile fun c => c = ' ' || c = '\t'
      if (missing != 0 && interrupts left.isEmpty after.rest) || (lineEnd? content).isSome then
        (pieces, none, line.next)
      else
        paragraphLines containers n (charBefore line.next content)
          (pieces ++ line.lineBreak.toList) content

def paragraph (containers : List Container) (before : Char) (start : Place) : Block × Place :=
  let (pieces, level, next) := paragraphLines containers (start.length + 1) before [] start
  (.ofPieces (match level with | some level => .heading level | none => .paragraph) start next
    pieces, next)

end EditorBridge.Markdown
