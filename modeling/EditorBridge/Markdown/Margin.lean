import EditorBridge.Markdown.Line

/-!
The beginning of a line. A line first passes through the block quotes and list items that are still
open, and then has an indentation of its own. Both are counted in columns: a tab reaches to the next
column that four divides, so a tab can be taken in parts.
-/

namespace EditorBridge.Markdown

/-- How far the beginning of a line has been read. -/
structure Margin where
  rest : List Char
  /-- The characters since the last tab. -/
  column : Nat
  /-- The columns of the last tab that are not taken yet. -/
  pending : Nat

namespace Margin

/-- The beginning of a line, of which nothing has been read. -/
def ofLine (line : List Char) : Margin := ⟨line, 0, 0⟩

/-- Takes white space until `wanted` columns are full, and gives how many are missing. -/
def takeColumns (wanted column : Nat) : List Char → Nat × Margin
  | [] => (wanted, ⟨[], column, 0⟩)
  | c :: rest =>
    if wanted = 0 then (0, ⟨c :: rest, column, 0⟩)
    else if c = ' ' then takeColumns (wanted - 1) (column + 1) rest
    else if c = '\t' then
      let width := 4 - column % 4
      if wanted < width then (0, ⟨rest, 0, width - wanted⟩)
      else takeColumns (wanted - width) 0 rest
    else (wanted, ⟨c :: rest, column, 0⟩)

/-- Takes up to `wanted` columns, and gives how many are missing. -/
def take (wanted : Nat) (m : Margin) : Nat × Margin :=
  if wanted ≤ m.pending then (0, { m with pending := m.pending - wanted })
  else takeColumns (wanted - m.pending) m.column m.rest

def skip (wanted : Nat) (m : Margin) : Margin := (m.take wanted).2

/-- Whether nothing but the end of the line is left. -/
def isAtEnd (m : Margin) : Bool :=
  match m.rest with
  | [] => true
  | c :: _ => isLineEnd c

/-- Past one character that is not white space. -/
def tail (m : Margin) : Margin := { m with rest := m.rest.tail, column := m.column + 1 }

/-- Past the mark of a block quote: a greater-than sign after up to three columns, and one column.
-/
def quoteMark? (m : Margin) : Option Margin :=
  let after := m.skip 3
  match after.rest with
  | '>' :: _ => some (after.tail.skip 1)
  | _ => none

end Margin

structure ItemMark where
  /-- The bullet, or the character behind the number. -/
  mark : Char
  /-- The number of an ordered item. -/
  number : Option Nat
  /-- The columns that belong to the item on its other lines. -/
  indent : Nat
  deriving DecidableEq, Repr

def isBullet (c : Char) : Bool := c = '-' || c = '+' || c = '*'

/-- The mark of an item, up to the white space after it, on a line of which `indent` columns are
taken: a bullet, or up to nine digits and a full stop or a parenthesis. -/
def itemMarkHead? (indent : Nat) (m : Margin) : Option (ItemMark × Margin) :=
  match m.rest with
  | [] => none
  | c :: _ =>
    if isBullet c then
      if (thematicBreak? m.rest).isSome then none
      else some (⟨c, none, indent + 2⟩, m.tail)
    else
      let digits := m.rest.takeWhile isDigit
      match m.rest.drop digits.length with
      | d :: after =>
        if (1 ≤ digits.length && digits.length ≤ 9) && (d = '.' || d = ')') then
          some (⟨d, some (numberOf digits), indent + digits.length + 2⟩,
            ⟨after, m.column + digits.length + 1, 0⟩)
        else none
      | [] => none

/-- Reads the mark of a list item. White space of up to four columns after the mark indents the
item; more of it belongs to a block of code, and before a blank line there is none. -/
def itemMark? (m : Margin) : Option (ItemMark × Margin) :=
  let (missing, inside) := m.take 4
  if missing = 0 then none
  else match itemMarkHead? (4 - missing) inside with
    | none => none
    | some (item, after) =>
      let (absent, spaced) := after.take 1
      if absent = 0 || spaced.isAtEnd then
        if isBlankLine spaced.rest then some (item, spaced)
        else
          let (lacking, content) := spaced.take 4
          if lacking = 0 then some (item, spaced)
          else some ({ item with indent := item.indent + (4 - lacking) }, content)
      else none

/-- A block that a line has to continue with a mark or an indentation. -/
inductive Container where
  | quote
  /-- A list item and its indentation. -/
  | item (indent : Nat)
  deriving DecidableEq, Repr

/-- The margin of a line behind its part in a container. A line that ends before its indentation is
full still continues an item. -/
def Container.enter? (m : Margin) : Container → Option Margin
  | .quote => m.quoteMark?
  | .item indent =>
    let (missing, after) := m.take indent
    if missing = 0 || after.isAtEnd then some after else none

/-- Passes through containers, the outermost first, and gives those that the line leaves. -/
def enterAll (m : Margin) : List Container → List Container × Margin
  | [] => ([], m)
  | container :: inner =>
    match container.enter? m with
    | some after => enterAll after inner
    | none => (container :: inner, m)

def skipContainers (containers : List Container) (line : List Char) : List Char :=
  (enterAll (.ofLine line) containers).2.rest

def margin? (containers : List Container) (line : List Char) : Option Margin :=
  match enterAll (.ofLine line) containers with
  | ([], m) => some m
  | _ => none

end EditorBridge.Markdown
