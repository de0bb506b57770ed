import EditorBridge.Markdown.Destination
import EditorBridge.Markdown.TextBlock
import EditorBridge.Text.CaseFold

/-!
Definitions of links. A definition gives a label its target; of two definitions of a label the first
one holds. Labels that differ only in case are the same.
-/

namespace EditorBridge.Markdown

/-- A label, with its case folded, and where it leads. -/
structure Definition where
  label : List Char
  target : Target
  deriving DecidableEq, Repr

def targetOf? (definitions : List Definition) (label : List Char) : Option Target :=
  (definitions.find? fun d => d.label = Text.foldCase label).map (·.target)

/-- Where a label goes on behind a line end, unless the next line begins another block. -/
def labelLine? (containers : List Container) (line : Place) : Option Place :=
  let (left, m) := enterAll (.ofLine line) containers
  if interrupts left.isEmpty m.rest then none else some m.rest

/-- Skips white space and at most one line end, and tells whether there was one. -/
def definitionSpace? (containers : List Container) (s : Place) : Option (Bool × Place) :=
  let spaced := s.dropWhile isSpace
  match lineEnd? spaced with
  | none => some (false, spaced)
  | some next =>
    match margin? containers next with
    | none => none
    | some m =>
      let content := m.rest.dropWhile isSpace
      if (lineEnd? content).isSome then none else some (true, content)

def definedTarget (destination title : List Char) : Target :=
  ⟨String.ofList (resolved destination), String.ofList (resolved title), false⟩

/-- Reads the target of a definition, behind the colon. A title that something follows on its line
is none, and may be left out only if it stands on a line of its own. -/
def definitionTarget? (containers : List Container) (s : Place) : Option (Target × Place) :=
  match definitionSpace? containers s with
  | none => none
  | some (_, content) =>
    match destination? 1 content with
    | none => none
    | some (destination, after) =>
      if after.length = content.length then none
      else
        let untitled := some (definedTarget destination [], after)
        match definitionSpace? containers after with
        | none => untitled
        | some (newLine, next) =>
          if next.length = after.length && !newLine then none
          else match definitionTitle? next with
            | none => if newLine then untitled else none
            | some (title, rest) =>
              match blankLine? rest with
              | some last => some (definedTarget destination title, last)
              | none => if newLine then untitled else none

/-- Reads a definition. What follows it on its last line is blank. -/
def definition? (containers : List Container) (s : Place) : Option (Definition × Place) :=
  match s with
  | '[' :: rest =>
    match label? (labelLine? containers) rest with
    | some (label, ':' :: after) =>
      (definitionTarget? containers after).map fun (target, next) =>
        (⟨Text.foldCase label, target⟩, skipBlankLine next)
    | _ => none
  | _ => none

end EditorBridge.Markdown
