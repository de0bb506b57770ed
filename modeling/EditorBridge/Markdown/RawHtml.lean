import EditorBridge.Markdown.Line

/-!
Markup of another language that a document carries as it stands: tags, comments, instructions and
declarations. Inside a line of text a piece of it may go over several lines; then every new line
first passes through its containers, which are no part of the markup.
-/

namespace EditorBridge.Markdown

/-- A letter of ASCII in lower case, any other character as it is. -/
def asciiLower (c : Char) : Char :=
  if 'A' ≤ c && c ≤ 'Z' then Char.ofNat (c.toNat + 32) else c

/-- The elements of which a tag at the beginning of a line begins a block. -/
def blockElements : List String :=
  ["address", "article", "aside", "base", "basefont", "blockquote", "body", "caption", "center",
    "col", "colgroup", "dd", "details", "dialog", "dir", "div", "dl", "dt", "fieldset",
    "figcaption", "figure", "footer", "form", "frame", "frameset", "h1", "h2", "h3", "h4", "h5",
    "h6", "head", "header", "hr", "html", "iframe", "legend", "li", "link", "main", "menu",
    "menuitem", "nav", "noframes", "ol", "optgroup", "option", "p", "param", "section", "source",
    "summary", "table", "tbody", "td", "tfoot", "th", "thead", "title", "tr", "track", "ul"]

/-- Whether a block of markup that ends at a blank line begins after a less-than sign: a tag of one
of the block elements. -/
def opensBlockElement (s : List Char) : Bool :=
  let s := if startsWith ['/'] s then s.drop 1 else s
  let name := (s.takeWhile isLetterOrDigit).map asciiLower
  blockElements.any fun element => element.toList = name

/-- The elements whose content is no markup, and what ends them. -/
def verbatimElements : List (String × String) :=
  [("pre", "</pre>"), ("style", "</style>"), ("script", "</script>"), ("textarea", "</textarea>")]

/-- What ends a block of markup that a verbatim element, a comment, an instruction or a declaration
begins after a less-than sign. -/
def blockTerminator? (s : List Char) : Option (List Char) :=
  let opens := fun (element : String × String) =>
    let name := element.1.toList
    ((s.take name.length).map asciiLower = name) &&
      match s.drop name.length with
      | [] => true
      | c :: _ => isSpaceOrEnd c || c = '>'
  match verbatimElements.find? opens with
  | some element => some element.2.toList
  | none =>
    if startsWith ['!', '-', '-'] s then some ['-', '-', '>']
    else if startsWith ['?'] s then some ['?', '>']
    else if startsWith "![CDATA[".toList s then some [']', ']', '>']
    else match s with
      | '!' :: c :: _ => if 'A' ≤ c && c ≤ 'Z' then some ['>'] else none
      | _ => none

/-- Whether markup that may end a paragraph begins at a less-than sign. -/
def rawInterrupts : List Char → Bool
  | '<' :: rest => (blockTerminator? rest).isSome || opensBlockElement rest
  | _ => false

/-- A scan of markup: what has been read, the newest character first, and what is left. -/
structure Scan where
  read : List Char
  rest : List Char

/-- What a scan does at a line end: the text after the containers of the next line, or nothing if
the markup has to stay on one line. -/
abbrev AtLineEnd := List Char → Option (List Char)

namespace Scan

def takeWhile (p : Char → Bool) (scan : Scan) : Scan :=
  let taken := scan.rest.takeWhile p
  ⟨taken.reverse ++ scan.read, scan.rest.drop taken.length⟩

def next (scan : Scan) : Scan :=
  match scan.rest with
  | [] => scan
  | c :: rest => ⟨c :: scan.read, rest⟩

def sees (c : Char) (scan : Scan) : Bool :=
  match scan.rest with
  | d :: _ => d = c
  | [] => false

/-- Takes a line end and passes through the containers of the next line. -/
def lineEnd? (onEnd : AtLineEnd) (scan : Scan) : Option Scan :=
  match Markdown.lineEnd? scan.rest with
  | none => none
  | some after =>
    let taken := scan.rest.take (scan.rest.length - after.length)
    (onEnd after).map fun rest => ⟨taken.reverse ++ scan.read, rest⟩

def whiteSpace? (onEnd : AtLineEnd) : Nat → Scan → Option Scan
  | 0, scan => some scan
  | n + 1, scan =>
    match scan.rest with
    | [] => some scan
    | c :: _ =>
      if isLineEnd c then (scan.lineEnd? onEnd).bind (whiteSpace? onEnd n)
      else if isSpace c then whiteSpace? onEnd n scan.next
      else some scan

def quotedValue? (onEnd : AtLineEnd) (quote : Char) : Nat → Scan → Option Scan
  | 0, _ => none
  | n + 1, scan =>
    match scan.rest with
    | [] => none
    | c :: _ =>
      if c = quote then some scan.next
      else if isLineEnd c then (scan.lineEnd? onEnd).bind (quotedValue? onEnd quote n)
      else quotedValue? onEnd quote n scan.next

/-- Whether a value without quotes may hold a character. -/
def isBareValue (c : Char) : Bool :=
  !(c = '\x27' || c = '\x22' || c = ' ' || c = '=' || c = '>' || c = '<' || c = '\x60' ||
    isLineEnd c)

def value? (onEnd : AtLineEnd) (scan : Scan) : Option Scan :=
  match scan.rest with
  | [] => none
  | c :: rest =>
    if c = '\x22' || c = '\x27' then scan.next.quotedValue? onEnd c (rest.length + 1)
    else if isBareValue c then some (scan.takeWhile isBareValue)
    else none

/-- Takes an attribute: a name, and a value if an equals sign follows. -/
def attribute? (onEnd : AtLineEnd) (scan : Scan) : Option Scan :=
  match scan.rest with
  | [] => none
  | c :: _ =>
    if isLetter c || c = '_' || c = ':' then
      let named := scan.next.takeWhile fun c =>
        isLetterOrDigit c || c = '_' || c = '.' || c = ':' || c = '-'
      match named.whiteSpace? onEnd named.rest.length with
      | none => none
      | some spaced =>
        if spaced.sees '=' then
          (spaced.next.whiteSpace? onEnd spaced.rest.length).bind (value? onEnd)
        else some named
    else none

/-- Takes the attributes of a tag, each with white space before it, up to a slash or the closing
greater-than sign. -/
def attributes? (onEnd : AtLineEnd) : Nat → Scan → Option Scan
  | 0, _ => none
  | n + 1, scan =>
    match scan.whiteSpace? onEnd scan.rest.length with
    | none => none
    | some spaced =>
      if spaced.rest.isEmpty then none
      else if spaced.sees '/' || spaced.sees '>' then some spaced
      else if spaced.read.length = scan.read.length then none
      else (spaced.attribute? onEnd).bind (attributes? onEnd n)

/-- Takes the closing greater-than sign. -/
def close? (scan : Scan) : Option Scan := if scan.sees '>' then some scan.next else none

end Scan

/-- A complete tag, from its less-than sign on, and what follows it. -/
def tag? (onEnd : AtLineEnd) (s : List Char) : Option (List Char × List Char) :=
  let opened := Scan.next ⟨[], s⟩
  let closing := opened.sees '/'
  let named := if closing then opened.next else opened
  match named.rest with
  | [] => none
  | c :: _ =>
    if !isLetter c then none
    else
      let named := named.takeWhile fun c => isLetterOrDigit c || c = '-'
      let inside :=
        if closing then some (named.takeWhile isSpace)
        else (named.attributes? onEnd (named.rest.length + 1)).map fun scan =>
          let spaced := scan.takeWhile isSpace
          if spaced.sees '/' then spaced.next else spaced
      (inside.bind Scan.close?).map fun scan => (scan.read.reverse, scan.rest)

/-- Whether a line begins with a complete tag and holds nothing else. -/
def isTagLine (s : List Char) : Bool :=
  match tag? (fun _ => none) s with
  | some (_, rest) => isBlankLine rest
  | none => false

def fromFirst (part : List Char) : List Char → Option (List Char)
  | [] => if part.isEmpty then some [] else none
  | c :: rest =>
    if startsWith part (c :: rest) then some (c :: rest) else fromFirst part rest

/-- Past a comment, of which an exclamation mark and a hyphen have been read. It has at least one
more hyphen, does not begin with a greater-than sign, and holds two hyphens only at its end. -/
def comment? (s : List Char) : Option (List Char) :=
  let body := s.dropWhile (· = '-')
  if body.length = s.length || startsWith ['>'] body then none
  else match fromFirst ['-', '-'] body with
    | some ('-' :: '-' :: '>' :: rest) => some rest
    | _ => none

/-- Past verbatim text, of which the opening has been read. It goes up to its first closing square
bracket. -/
def verbatim? (s : List Char) : Option (List Char) :=
  match s.dropWhile (· != ']') with
  | [] => none
  | c :: rest =>
    match (c :: rest).dropWhile (· = ']') with
    | '>' :: after => some after
    | _ => none

/-- Past a declaration: capital letters, white space, and text up to a greater-than sign. -/
def declaration? (s : List Char) : Option (List Char) :=
  let named := s.dropWhile fun c => 'A' ≤ c && c ≤ 'Z'
  let spaced := named.dropWhile isSpaceOrEnd
  if spaced.length = named.length then none
  else match spaced.dropWhile (· != '>') with
    | _ :: rest => some rest
    | [] => none

/-- Past an instruction, of which the opening question mark has been read. -/
def instruction? (s : List Char) : Option (List Char) :=
  (fromFirst ['?', '>'] s).map (·.drop 2)

/-- A piece of markup inside a line of text, of which the less-than sign has been read, and what
follows it. -/
def rawInline? (onEnd : AtLineEnd) (s : List Char) : Option (List Char × List Char) :=
  let whole := fun (rest : List Char) => ('<' :: s.take (s.length - rest.length), rest)
  match s with
  | [] => none
  | '!' :: rest =>
    match rest with
    | [] => none
    | '-' :: body => (comment? body).map whole
    | '[' :: body =>
      if startsWith "CDATA[".toList body then (verbatim? (body.drop 6)).map whole else none
    | c :: body => if 'A' ≤ c && c ≤ 'Z' then (declaration? body).map whole else none
  | '?' :: rest => (instruction? rest).map whole
  | _ => tag? onEnd ('<' :: s)

end EditorBridge.Markdown
