import EditorBridge.Html.Escape
import EditorBridge.Text.Blank
import EditorBridge.Text.Lines

/-!
HTML as plain text. Tags are left out; line breaks and the ends of block elements become line feeds.
A tag that is not closed is text. White space at the ends of lines and line feeds at the ends of the
text are left out.
-/

namespace EditorBridge.Html

/-- The name in a tag: what follows its slashes up to white space or the next slash, with the
letters of ASCII in lower case. -/
def tagName (tag : List Char) : List Char :=
  ((tag.dropWhile (· = '/')).takeWhile fun c => !(Text.isBlank c || c = '/')).map Char.toLower

def lineElements : List String :=
  ["p", "div", "pre", "li", "tr", "h1", "h2", "h3", "h4", "h5", "h6"]

/-- Whether a tag, without its angle brackets, ends a line. -/
def breaksLine (tag : List Char) : Bool :=
  let name := tagName tag
  name = ['b', 'r'] ||
    (tag.head? = some '/' && lineElements.any fun element => element.toList = name)

/-- The text of HTML, before its layout. The first argument bounds the number of tags. -/
def textWithin : Nat → List Char → List Char
  | 0, s => decode s
  | n + 1, s =>
    let run := s.takeWhile (· != '<')
    match s.drop run.length with
    | [] => decode run
    | opened :: rest =>
      let tag := rest.takeWhile (· != '>')
      match rest.drop tag.length with
      | [] => decode run ++ decode (opened :: rest)
      | _ :: after =>
        decode run ++ (if breaksLine tag then ['\n'] else []) ++ textWithin n after

def textOf (s : List Char) : List Char := textWithin s.length s

/-- Leaves out the white space at the ends of lines and the line feeds at the ends of the text. -/
def layout (s : List Char) : List Char :=
  Text.trimWhile (· = '\n') (Text.joinWith ['\n'] ((Text.lines s).map Text.trimEnd))

def plainText (html : String) : String := String.ofList (layout (textOf html.toList))

end EditorBridge.Html
