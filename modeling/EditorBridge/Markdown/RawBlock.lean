import EditorBridge.Markdown.Block
import EditorBridge.Markdown.RawHtml

/-!
Blocks of markup of another language. They are kept line by line, with their indentation.
-/

namespace EditorBridge.Markdown

def rawLine (pending : Nat) (start next : Place) : List Piece :=
  restOfTab pending start ++
    (verbatimStretches start next).map fun (first, last) => ⟨first, last, .html⟩

inductive RawEnd where
  /-- The line that holds a text. -/
  | after (part : List Char)
  /-- The next blank line. -/
  | blankLine

/-- Whether a block of markup ends behind `line`, before a line with the margin `m`. -/
def RawEnd.isReached (line : List Char) (m : Margin) : RawEnd → Bool
  | .after part => holds part line || m.rest.isEmpty
  | .blankLine => m.isAtEnd || isBlankLine m.rest

def rawLines (containers : List Container) (ending : RawEnd) :
    Nat → (pending : Nat) → Place → List Piece × Place
  | 0, _, start => ([], start)
  | n + 1, pending, start =>
    let (line, next) := takeLine start
    let pieces := rawLine pending start next
    match margin? containers next with
    | none => (pieces, next)
    | some m =>
      if ending.isReached line m then (pieces, next)
      else
        let (more, after) := rawLines containers ending n m.pending m.rest
        (pieces ++ more, after)

/-- What ends the block of markup that begins at `content`, if one does: a line with nothing but a
tag begins one, and so do the tags of block elements and what has a terminator of its own. -/
def rawEnd? (content : Place) : Option RawEnd :=
  match content with
  | '<' :: rest =>
    match blockTerminator? rest with
    | some part => some (.after part)
    | none => if opensBlockElement rest || isTagLine content then some .blankLine else none
  | _ => none

/-- Reads a block of markup from the margin of its first line on. -/
def rawBlock (containers : List Container) (ending : RawEnd) (m : Margin) : List Block × Place :=
  let (pieces, next) := rawLines containers ending (m.rest.length + 1) m.pending m.rest
  (pieces.map .leaf, next)

end EditorBridge.Markdown
