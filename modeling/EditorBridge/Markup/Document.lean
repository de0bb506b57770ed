import EditorBridge.Markdown.Document
import EditorBridge.Markup.Span
import EditorBridge.Text.Blank

/-!
Documents in markup with faces. The events of a document are read one after the other; the faces
that are open, the lists and the quote that the document is in decide what each event shows.
-/

namespace EditorBridge.Markup

open Markdown

structure Context where
  inCode : Bool
  inQuote : Bool
  /-- A text of the quote has been shown. -/
  quoteBegun : Bool
  /-- The open lists, the innermost first, each with its next number if it is ordered. -/
  lists : List (Option Nat)
  /-- The faces that elements have set, the innermost first. -/
  faces : List Face

namespace Context

def start : Context := ⟨false, false, false, [], []⟩

def face (ctx : Context) : Face := ctx.faces.headD .default

def push (face : Face) (ctx : Context) : Context := { ctx with faces := face :: ctx.faces }

def pop (ctx : Context) : Context := { ctx with faces := ctx.faces.tail }

end Context

def newLine : Span := .sign ['\n']

/-- The mark of the next item and what becomes of the open lists. -/
def itemMark (lists : List (Option Nat)) : List Char × List (Option Nat) :=
  match lists with
  | some number :: outer => (Nat.toDigits 10 number ++ ['.', ' '], some (number + 1) :: outer)
  | _ => (['-', ' '], lists)

def enter (ctx : Context) : Tag → Context × List Span
  | .paragraph =>
    (ctx, if ctx.inQuote && ctx.quoteBegun then [.sign ['>'], newLine] else [newLine])
  | .heading level =>
    (ctx.push .header,
      [newLine, .face .header, .sign (List.replicate level '#' ++ [' '])])
  | .blockQuote => ({ ctx.push .blockQuote with inQuote := true }, [.face .blockQuote])
  | .codeBlock _ => ({ ctx.push .block with inCode := true }, [newLine, .face .block])
  | .list start => ({ ctx with lists := start :: ctx.lists }, [])
  | .item =>
    let (mark, lists) := itemMark ctx.lists
    ({ ctx with lists := lists },
      [.sign ('\n' :: List.replicate (2 * ctx.lists.length) ' '), .face .bullet, .sign mark,
        .face ctx.face])
  | .emphasis => (ctx, [.stressed .italic ctx.face])
  | .strong => (ctx, [.stressed .bold ctx.face])
  | .link _ => (ctx.push .link, [.face .link])
  | .image _ => (ctx, [])

def popFace (ctx : Context) : Context × List Span := (ctx.pop, [.face ctx.pop.face])

def leave (ctx : Context) : Tag → Context × List Span
  | .paragraph => (ctx, [newLine])
  | .heading _ => (ctx.pop, [.face ctx.pop.face, newLine])
  | .blockQuote => popFace { ctx with inQuote := false, quoteBegun := false }
  | .codeBlock _ => popFace { ctx with inCode := false }
  | .list _ =>
    ({ ctx with lists := ctx.lists.tail }, if ctx.lists.tail.isEmpty then [newLine] else [])
  | .item => (ctx, [])
  | .emphasis => popFace ctx
  | .strong => popFace ctx
  | .link _ => popFace ctx
  | .image _ => (ctx, [])

def read (ctx : Context) : Event → Context × List Span
  | .enter tag => enter ctx tag
  | .leave tag => leave ctx tag
  | .text s =>
    if ctx.inQuote then
      ({ ctx with quoteBegun := true }, [.sign ['>', ' '], .text s.toList])
    else (ctx, [.text s.toList])
  | .code s =>
    (ctx, [.face (if ctx.face = .link then .linkMono else .mono), .text s.toList,
      .face ctx.face])
  | .html s => (ctx, [.text s.toList])
  | .softBreak => (ctx, [if ctx.inQuote || ctx.inCode then newLine else .sign [' ']])
  | .hardBreak => (ctx, [newLine])
  | .rule =>
    (ctx, [newLine, .face .rule, .sign ['-', '-', '-'], .face ctx.face, newLine])

def spansFrom (ctx : Context) : List Event → List Span
  | [] => []
  | event :: rest =>
    let (ctx, spans) := read ctx event
    spans ++ spansFrom ctx rest

def spansOf (events : List Event) : List Span := spansFrom .start events

/-- Leaves out the tag of the default face at the end, and then white space at both ends. -/
def trimmed (markup : List Char) : List Char :=
  let tag := tagOf Face.default.name.toList
  Text.trim
    (if tag.isSuffixOf markup then markup.take (markup.length - tag.length) else markup)

def ofEvents (events : List Event) : List Char := trimmed (write (spansOf events))

def ofMarkdown (markdown : String) : String :=
  String.ofList (ofEvents (eventsOf (parse markdown)))

end EditorBridge.Markup
