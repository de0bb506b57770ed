import EditorBridge.Markdown.Inline
import EditorBridge.Markdown.Outline

/-!
Documents from their text.
-/

namespace EditorBridge.Markdown

def nodesOf (s : List Char) : List Node :=
  let outline := Outline.ofText s
  inlines ⟨outline.definitions, [], []⟩ (resolveAll outline.definitions [] outline.blocks)

def parse (text : String) : List Node := nodesOf text.toList

end EditorBridge.Markdown
