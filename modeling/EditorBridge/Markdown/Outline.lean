import EditorBridge.Markdown.CodeBlock
import EditorBridge.Markdown.Definition
import EditorBridge.Markdown.RawBlock

/-!
The outline of a document: its blocks and the definitions of its links. It grows line by line. Block
quotes, lists and items stay open until a line leaves them; all other blocks are read in one go.
-/

namespace EditorBridge.Markdown

structure Frame where
  kind : Kind
  start : Place
  inside : List Block

/-- A document read up to some line. -/
structure Outline where
  /-- The open blocks, the innermost first. -/
  frames : List Frame
  blocks : List Block
  /-- The line above began a list item and was blank behind its mark. -/
  itemBegun : Bool
  /-- The line above was blank. -/
  afterBlank : Bool
  definitions : List Definition

namespace Outline

def empty : Outline := ⟨[], [], false, false, []⟩

def add (blocks : List Block) (o : Outline) : Outline :=
  match o.frames with
  | [] => { o with blocks := o.blocks ++ blocks }
  | frame :: outer => { o with frames := { frame with inside := frame.inside ++ blocks } :: outer }

def closed (stop : Place) (frame : Frame) : Block :=
  match frame.kind with
  | .list true mark start =>
    .group (.list true mark start) frame.start stop (frame.inside.map Block.tighten)
  | kind => .group kind frame.start stop frame.inside

def close (stop : Place) (o : Outline) : Outline :=
  match o.frames with
  | [] => o
  | frame :: outer => ({ o with frames := outer }).add [closed stop frame]

def closeMany (stop : Place) : Nat → Outline → Outline
  | 0, o => o
  | n + 1, o => closeMany stop n (o.close stop)

def openFrame (kind : Kind) (start : Place) (o : Outline) : Outline :=
  { o with frames := ⟨kind, start, []⟩ :: o.frames }

/-- A list with blank lines between its items, and any other block as it is. -/
def loosen (frame : Frame) : Frame :=
  match frame.kind with
  | .list _ mark start => { frame with kind := .list false mark start }
  | _ => frame

/-- Closes the innermost block if it is a list. A blank line above makes the list loose in whose
item the outline then is. -/
def finishList (stop : Place) (o : Outline) : Outline :=
  let o := match o.frames with
    | ⟨.list .., _, _⟩ :: _ => o.close stop
    | _ => o
  if o.afterBlank then
    let frames := match o.frames with
      | item :: list :: outer => item :: loosen list :: outer
      | frames => frames
    { o with frames := frames, afterBlank := false }
  else o

def openList (start : Place) (item : ItemMark) (o : Outline) : Outline :=
  { o.openFrame (.list true item.mark item.number) start with afterBlank := false }

/-- Opens the list that an item belongs to, unless the item goes on with the list that is open. -/
def continueList (start : Place) (item : ItemMark) (o : Outline) : Outline :=
  match o.frames with
  | [] => o.openList start item
  | ⟨.list isTight mark number, begun, inside⟩ :: outer =>
    if mark != item.mark then (o.finishList start).openList start item
    else if o.afterBlank then
      { o with frames := loosen ⟨.list isTight mark number, begun, inside⟩ :: outer,
               afterBlank := false }
    else o
  | _ :: _ => (o.finishList start).openList start item

/-- The containers that a line has to pass through, the outermost first. -/
def containers (o : Outline) : List Container :=
  o.frames.reverse.filterMap fun frame => frame.kind.container?

/-- Passes a margin through the open blocks, the outermost first, up to one that the line leaves.
Gives the number of those left. -/
def enterFrames (m : Margin) : List Frame → Nat × Margin
  | [] => (0, m)
  | frame :: inner =>
    match frame.kind.container? with
    | none => enterFrames m inner
    | some container =>
      match container.enter? m with
      | some after => enterFrames after inner
      | none => (inner.length + 1, m)

/-- Opens the containers that begin at a margin, with a bound on their number. `line` is the
beginning of the line. The last part of the result tells whether a mark with a blank line behind it
ends the line. -/
def openContainers (line : Place) : Nat → Margin → Outline → Outline × Margin × Bool
  | 0, m, o => (o, m, false)
  | n + 1, m, o =>
    match itemMark? m with
    | some (item, after) =>
      let o := (o.continueList m.rest item).openFrame (.item item.indent) m.rest
      if isBlankLine after.rest then ({ o with itemBegun := true }, after, true)
      else openContainers line n after o
    | none =>
      match m.quoteMark? with
      | some after => openContainers line n after ((o.finishList line).openFrame .quote m.rest)
      | none => (o, m, false)

/-- Takes note of a blank line. An item begins with one blank line at most. -/
def blankLine (line : Place) (o : Outline) : Outline :=
  match o.frames with
  | [] => o
  | ⟨.quote, _, _⟩ :: _ => o
  | _ => { (if o.itemBegun then o.close line else o) with afterBlank := true }

def addBlock (line : Place) (m : Margin) (o : Outline) : Outline × Place :=
  let containers := o.containers
  let (missing, inside) := m.take 4
  let content := inside.rest
  if missing = 0 then
    let (block, next) := indentedCode containers inside.pending content
    (o.add [block], next)
  else match rawEnd? content with
    | some ending =>
      let (blocks, next) := rawBlock containers ending m
      (o.add blocks, next)
    | none =>
      match thematicBreak? content, numberSignLevel? content, definition? containers content,
        codeFence? content with
      | some next, _, _, _ => (o.add [.leaf ⟨content, next, .node .rule⟩], next)
      | none, some level, _, _ =>
        let (block, next) := numberSignHeading level content
        (o.add [block], next)
      | none, none, some (definition, next), _ =>
        ({ o with definitions := o.definitions ++ [definition] }, next)
      | none, none, none, some (mark, length) =>
        let (block, next) := fencedCode containers (4 - missing) mark length content
        (o.add [block], next)
      | none, none, none, none =>
        let (block, next) := paragraph containers (charBefore line content) content
        (o.add [block], next)

/-- Reads the block that begins at a line, and gives the place of the next line to read. -/
def readBlock (line : Place) (o : Outline) : Outline × Place :=
  let (left, m) := enterFrames (.ofLine line) o.frames.reverse
  let (o, m, isDone) := openContainers line (line.length + 1) m (o.closeMany line left)
  if isDone then (o, skipBlankLine m.rest)
  else if isBlankLine m.rest then (o.blankLine line, skipBlankLine m.rest)
  else ({ o with itemBegun := false }.finishList line).addBlock line m

def readBlocks : Nat → Place → Outline → Outline
  | 0, _, o => o
  | n + 1, line, o =>
    if line.isEmpty then o
    else
      let (o, next) := o.readBlock line
      readBlocks n next o

def ofText (s : List Char) : Outline :=
  let o := readBlocks (s.length + 1) s empty
  o.closeMany [] o.frames.length

end Outline

end EditorBridge.Markdown
