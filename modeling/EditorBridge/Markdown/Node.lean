/-!
Documents. A document is a list of nodes; an element is a node with nodes inside, and the others are
leaves. Read from left to right, a document is a sequence of events in which every element is
entered and left, so the events of a document are well nested.
-/

namespace EditorBridge.Markdown

structure Target where
  destination : String
  title : String
  /-- The destination is a mail address without a scheme. -/
  isMail : Bool
  deriving DecidableEq, Repr

inductive Tag where
  | paragraph
  /-- A heading of a level from one to six. -/
  | heading (level : Nat)
  | blockQuote
  /-- A block of code, with the info string if it has a fence. -/
  | codeBlock (info : Option String)
  /-- A list, with its first number if it is ordered. -/
  | list (start : Option Nat)
  | item
  | emphasis
  | strong
  | link (target : Target)
  | image (target : Target)
  deriving DecidableEq, Repr

inductive Node where
  | element (tag : Tag) (children : List Node)
  | text (s : String)
  | code (s : String)
  /-- Markup of another language, kept as it stands. -/
  | html (s : String)
  | softBreak
  | hardBreak
  | rule
  deriving Repr

inductive Event where
  | enter (tag : Tag)
  | leave (tag : Tag)
  | text (s : String)
  | code (s : String)
  | html (s : String)
  | softBreak
  | hardBreak
  | rule
  deriving DecidableEq, Repr

mutual

def Node.events : Node → List Event
  | .element tag children => .enter tag :: (eventsOf children ++ [.leave tag])
  | .text s => [.text s]
  | .code s => [.code s]
  | .html s => [.html s]
  | .softBreak => [.softBreak]
  | .hardBreak => [.hardBreak]
  | .rule => [.rule]

def eventsOf : List Node → List Event
  | [] => []
  | node :: rest => node.events ++ eventsOf rest

end

@[simp] theorem eventsOf_nil : eventsOf [] = [] := rfl

@[simp] theorem eventsOf_cons (node : Node) (rest : List Node) :
    eventsOf (node :: rest) = node.events ++ eventsOf rest := rfl

@[simp] theorem eventsOf_append (xs ys : List Node) :
    eventsOf (xs ++ ys) = eventsOf xs ++ eventsOf ys := by
  induction xs with
  | nil => rfl
  | cons x xs ih => simp [ih]

end EditorBridge.Markdown
