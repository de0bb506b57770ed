import EditorBridge.Markdown.Margin
import EditorBridge.Markdown.Piece

/-!
The blocks of a document, before brackets and delimiters inside them are resolved.
-/

namespace EditorBridge.Markdown

inductive Kind where
  | paragraph
  | heading (level : Nat)
  | quote
  /-- Code, with its info string if it has a fence. -/
  | code (info : Option (List Char))
  /-- A list whose items have the same mark. In a tight list no blank line separates the items or
  the blocks in them. -/
  | list (isTight : Bool) (mark : Char) (start : Option Nat)
  | item (indent : Nat)
  deriving DecidableEq, Repr

def Kind.tag : Kind → Tag
  | .paragraph => .paragraph
  | .heading level => .heading level
  | .quote => .blockQuote
  | .code info => .codeBlock (info.map String.ofList)
  | .list _ _ start => .list start
  | .item _ => .item

/-- What the lines inside a block have to pass through, if anything. -/
def Kind.container? : Kind → Option Container
  | .quote => some .quote
  | .item indent => some (.item indent)
  | _ => none

inductive Block where
  | leaf (piece : Piece)
  | group (kind : Kind) (start stop : Place) (inside : List Block)

def Block.ofPieces (kind : Kind) (start stop : Place) (pieces : List Piece) : Block :=
  .group kind start stop (pieces.map .leaf)

/-- In the items of a tight list, the contents of a paragraph stand in its place. -/
def Block.unwrapParagraph : Block → List Block
  | .group .paragraph _ _ inside => inside
  | block => [block]

def Block.tighten : Block → Block
  | .group (.item indent) start stop inside =>
    .group (.item indent) start stop (inside.flatMap Block.unwrapParagraph)
  | block => block

/-- The last character before a place of a line; at its beginning that is a line feed. -/
def charBefore (line place : Place) : Char := (between line place).getLastD '\n'

/-- The stretches of a line of verbatim text with a line feed alone at its end: the carriage return
before the last character is left out. -/
def verbatimStretches (start next : Place) : List (Place × Place) :=
  let line := between start next
  match line.reverse with
  | last :: '\r' :: _ =>
    if last.toNat < 0x80 then
      [(start, start.drop (line.length - 2)), (start.drop (line.length - 1), next)]
    else [(start, next)]
  | _ => [(start, next)]

/-- The columns of a tab that a line of verbatim text begins with. -/
def restOfTab (pending : Nat) (start : Place) : List Piece :=
  if pending = 0 then [] else [⟨start, start, .given (List.replicate pending ' ')⟩]

end EditorBridge.Markdown
