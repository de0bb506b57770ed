import EditorBridge.Html.Escape
import EditorBridge.Markdown.Node

/-!
Documents as HTML. Block elements begin on a line of their own; markup that a document carries is
copied as it stands.
-/

namespace EditorBridge.Html

open Markdown

/-- Whether the text before a place ends a line, if `before` tells so of what precedes `s`. -/
def endsLine (before : Bool) (s : List Char) : Bool :=
  match s.getLast? with
  | none => before
  | some c => c = '\n'

/-- Begins a line unless one has just begun. -/
def onNewLine (atStart : Bool) (s : String) : List Char :=
  if atStart then s.toList else '\n' :: s.toList

def titleAttribute (title : String) : List Char :=
  if title.isEmpty then [] else "\x22 title=\x22".toList ++ escape title.toList

/-- The language that an info string names: its first word. -/
def language (info : String) : List Char := info.toList.takeWhile (· != ' ')

/-- The tag that opens an element. The alternative text of an image is not in it. -/
def openTag (atStart : Bool) : Tag → List Char
  | .paragraph => onNewLine atStart "<p>"
  | .heading level => onNewLine atStart "<h" ++ Nat.toDigits 10 level ++ ['>']
  | .blockQuote => onNewLine atStart "<blockquote>\n"
  | .codeBlock info =>
    let name := language (info.getD "")
    onNewLine atStart "<pre><code" ++
      (if name.isEmpty then [] else " class=\x22language-".toList ++ escape name ++ ['\x22']) ++
      ['>']
  | .list none => onNewLine atStart "<ul>\n"
  | .list (some start) =>
    if start = 1 then onNewLine atStart "<ol>\n"
    else onNewLine atStart "<ol start=\x22" ++ Nat.toDigits 10 start ++ ['\x22', '>', '\n']
  | .item => onNewLine atStart "<li>"
  | .emphasis => "<em>".toList
  | .strong => "<strong>".toList
  | .link target =>
    "<a href=\x22".toList ++ (if target.isMail then "mailto:".toList else []) ++
      escapeAddress target.destination.toList ++ titleAttribute target.title ++ ['\x22', '>']
  | .image target => "<img src=\x22".toList ++ escapeAddress target.destination.toList

def closeTag : Tag → List Char
  | .paragraph => "</p>\n".toList
  | .heading level => "</h".toList ++ Nat.toDigits 10 level ++ ['>', '\n']
  | .blockQuote => "</blockquote>\n".toList
  | .codeBlock _ => "</code></pre>\n".toList
  | .list none => "</ul>\n".toList
  | .list (some _) => "</ol>\n".toList
  | .item => "</li>\n".toList
  | .emphasis => "</em>".toList
  | .strong => "</strong>".toList
  | .link _ => "</a>".toList
  | .image target => titleAttribute target.title ++ ['\x22', ' ', '/', '>']

mutual

def alternative : Node → List Char
  | .element _ children => alternativeOf children
  | .text s => escape s.toList
  | .code s => escape s.toList
  | .html s => escape s.toList
  | .softBreak => [' ']
  | .hardBreak => [' ']
  | .rule => [' ']

/-- The text of nodes without their elements, escaped. -/
def alternativeOf : List Node → List Char
  | [] => []
  | node :: rest => alternative node ++ alternativeOf rest

end

mutual

/-- A node as HTML. `atStart` tells whether a line begins before it. -/
def ofNode (atStart : Bool) : Node → List Char
  | .element (.image target) children =>
    openTag atStart (.image target) ++ "\x22 alt=\x22".toList ++ alternativeOf children ++
      closeTag (.image target)
  | .element tag children =>
    let opening := openTag atStart tag
    opening ++ ofNodesAt (endsLine atStart opening) children ++ closeTag tag
  | .text s => escape s.toList
  | .code s => "<code>".toList ++ escape s.toList ++ "</code>".toList
  | .html s => s.toList
  | .softBreak => ['\n']
  | .hardBreak => "<br />\n".toList
  | .rule => onNewLine atStart "<hr />\n"

def ofNodesAt (atStart : Bool) : List Node → List Char
  | [] => []
  | node :: rest =>
    let s := ofNode atStart node
    s ++ ofNodesAt (endsLine atStart s) rest

end

def ofNodes (nodes : List Node) : List Char := ofNodesAt true nodes

end EditorBridge.Html
