import EditorBridge.Markdown.Block

/-!
Blocks of code: text that is indented by four columns, or that stands between two fences. The text
of a block is the text of its lines behind the indentation or the fence's own indentation.
-/

namespace EditorBridge.Markdown

def appendCodeLine (pieces : List Piece) (pending : Nat) (start next : Place) : List Piece :=
  (verbatimStretches start next).foldl
    (fun pieces (first, last) =>
      if first.length = last.length then pieces else appendText pieces first last)
    (pieces ++ restOfTab pending start)

structure CodeLines where
  pieces : List Piece
  stop : Place
  next : Place

/-- Reads lines of indented code, with a bound on their number. `kept` is what has been read up to
the last line that is not blank: blank lines belong to the block only if another line follows. -/
def indentedLines (containers : List Container) :
    Nat → (pieces : List Piece) → (kept : CodeLines) → (isBlank : Bool) → (pending : Nat) →
      (start : Place) → CodeLines
  | 0, _, kept, _, _, _ => kept
  | n + 1, pieces, kept, isBlank, pending, start =>
    let next := (takeLine start).2
    let pieces := appendCodeLine pieces pending start next
    let kept := if isBlank then { kept with next := next } else ⟨pieces, next, next⟩
    match margin? containers next with
    | none => kept
    | some m =>
      let (missing, after) := m.take 4
      if (missing = 0 || after.isAtEnd) && !after.rest.isEmpty then
        indentedLines containers n pieces kept (isBlankLine after.rest) after.pending after.rest
      else kept

def indentedCode (containers : List Container) (pending : Nat) (start : Place) : Block × Place :=
  let code := indentedLines containers (start.length + 1) [] ⟨[], start, start⟩ false pending start
  (.ofPieces (.code none) start code.stop code.pieces, code.next)

/-- Reads lines of code up to a closing fence, with a bound on their number. The block also ends
where a line leaves its containers. -/
def fencedLines (containers : List Container) (indent : Nat) (mark : Char) (length : Nat) :
    Nat → List Piece → Place → List Piece × Place
  | 0, pieces, line => (pieces, line)
  | n + 1, pieces, line =>
    match margin? containers line with
    | none => (pieces, line)
    | some m =>
      let inside := m.skip indent
      let (missing, fence) := inside.take 4
      match if missing = 0 then none else closingFence? mark length fence.rest with
      | some after => (pieces, after)
      | none =>
        let next := (takeLine inside.rest).2
        fencedLines containers indent mark length n
          (appendCodeLine pieces inside.pending inside.rest next) next

/-- Reads a block of code whose opening fence begins at `start`, behind `indent` columns. -/
def fencedCode (containers : List Container) (indent : Nat) (mark : Char) (length : Nat)
    (start : Place) : Block × Place :=
  let (line, next) := takeLine ((start.drop length).dropWhile isSpace)
  let info := resolved (Text.dropEndWhile isSpaceOrEnd line)
  let (pieces, stop) := fencedLines containers indent mark length (next.length + 1) [] next
  (.ofPieces (.code (some info)) start stop pieces, skipBlankLine stop)

end EditorBridge.Markdown
