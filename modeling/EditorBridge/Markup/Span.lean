/-!
Markup with faces. Between face tags such as `{InfoHeader}` stands text in which a backslash is
written as two and an opening brace with a backslash before it.
-/

namespace EditorBridge.Markup

inductive Face where
  | default
  | blockQuote
  | block
  | header
  | linkMono
  | link
  | bullet
  | mono
  | rule
  deriving DecidableEq, Repr

def Face.name : Face → String
  | .default => "InfoDefault"
  | .blockQuote => "InfoBlockQuote"
  | .block => "InfoBlock"
  | .header => "InfoHeader"
  | .linkMono => "InfoLinkMono"
  | .link => "InfoLink"
  | .bullet => "InfoBullet"
  | .mono => "InfoMono"
  | .rule => "InfoRule"

inductive Stress where
  | italic
  | bold
  deriving DecidableEq, Repr

def Stress.letter : Stress → Char
  | .italic => 'i'
  | .bold => 'b'

inductive Span where
  /-- From here on the text has a face. -/
  | face (face : Face)
  /-- From here on the text has a face with a stress. -/
  | stressed (stress : Stress) (face : Face)
  /-- A sign that shows the structure of the text, such as a bullet. It needs no escapes. -/
  | sign (s : List Char)
  /-- Text that may hold anything. -/
  | text (s : List Char)
  deriving DecidableEq, Repr

def escapeChar (c : Char) : List Char :=
  if c = '\\' then ['\\', '\\'] else if c = '\x7b' then ['\\', '\x7b'] else [c]

def escapeAll (s : List Char) : List Char := s.flatMap escapeChar

def escape (s : String) : String := String.ofList (escapeAll s.toList)

/-- What stands between the braces of a face tag, with the braces. -/
def tagOf (inside : List Char) : List Char := '\x7b' :: inside ++ ['\x7d']

def Span.write : Span → List Char
  | .face f => tagOf f.name.toList
  | .stressed stress f => tagOf ('+' :: stress.letter :: '@' :: f.name.toList)
  | .sign s => s
  | .text s => escapeAll s

def Span.visible : Span → List Char
  | .face _ => []
  | .stressed _ _ => []
  | .sign s => s
  | .text s => s

def write (spans : List Span) : List Char := spans.flatMap Span.write

@[simp] theorem write_nil : write [] = [] := rfl

@[simp] theorem write_cons (span : Span) (spans : List Span) :
    write (span :: spans) = span.write ++ write spans := rfl

@[simp] theorem write_append (xs ys : List Span) : write (xs ++ ys) = write xs ++ write ys := by
  simp [write]

end EditorBridge.Markup
