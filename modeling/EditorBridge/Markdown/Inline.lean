import EditorBridge.Markdown.Definition
import EditorBridge.Markdown.Emphasis

/-!
Lines of text as nodes. The pieces of a paragraph are read from left to right. Code spans, addresses
and markup are found first, because they hide brackets and delimiters; then a closing bracket looks
for the bracket that opens its link or image. Emphasis is resolved last, for the inside of every
link on its own.
-/

namespace EditorBridge.Markdown

structure Surroundings where
  definitions : List Definition
  /-- What every line of the paragraph passes through. -/
  containers : List Container
  /-- Where the paragraph ends. -/
  stop : Place

namespace Surroundings

def visible (around : Surroundings) (place : Place) : List Char := between place around.stop

/-- The place where a visible text begins. `early` is a place before it. -/
def placeOf (around : Surroundings) (early : Place) (visible : List Char) : Place :=
  early.drop (early.length - (visible.length + around.stop.length))

def nextLine (around : Surroundings) : AtLineEnd :=
  fun line => some (skipContainers around.containers line)

end Surroundings

def piecesBeyond (place : Place) (pieces : List Piece) : List Piece :=
  pieces.dropWhile fun p => place.length ≤ p.stop.length

/-- The pieces behind a place. One that begins before the place loses that part. -/
def piecesFrom (place : Place) (pieces : List Piece) : List Piece :=
  match piecesBeyond place pieces with
  | [] => []
  | p :: rest =>
    { p with start := if place.length < p.start.length then place else p.start } :: rest

/-- The pieces up to the next run of `count` grave accents, the run, and the pieces behind it. -/
def splitAtTicks (count : Nat) : List Piece → Option (List Piece × Piece × List Piece)
  | [] => none
  | p :: rest =>
    let isMatch : Bool := match p.mark with
      | .ticks found _ => found = count
      | _ => false
    if isMatch then some ([], p, rest)
    else (splitAtTicks count rest).map fun (inside, close, after) => (p :: inside, close, after)

def Piece.isBreak (p : Piece) : Bool :=
  match p.mark with
  | .softBreak | .hardBreak => true
  | _ => false

/-- Whether a character counts as white space at the ends of a code span. -/
def isSpanSpace (c : Char) : Bool := c = ' ' || isLineEnd c

/-- The text of a code span from `start` to `stop`, behind what has been read of it. Line breaks
become spaces. If the span loses the white space at its ends (`trims`), a break there is left out;
`isFirst` tells whether no piece has been read. -/
def spanText (close : Place) (trims : Bool) :
    (isFirst : Bool) → (start stop : Place) → List Piece → List Char
  | _, start, stop, [] => between start stop
  | isFirst, start, stop, p :: rest =>
    if p.isBreak then
      let next := match rest with
        | q :: _ => q.start
        | [] => close
      if trims && isFirst then
        spanText close trims false (if next.length < stop.length then stop else next) stop rest
      else if trims && rest.isEmpty then between start p.start
      else
        let line := p.start.takeWhile fun c => !isLineEnd c
        between start (p.start.drop line.length) ++ ' ' :: spanText close trims false next stop rest
    else spanText close trims false start stop rest

/-- The text of a code span between two runs of grave accents. One space or line break at each end
is left out if both are there, unless there is nothing else. -/
def codeSpan (start : Place) (inside : List Piece) (close : Place) : List Char :=
  let whole := between start close
  if whole.all (· = ' ') then whole
  else
    let trims := (whole.head?.any isSpanSpace) && (whole.getLast?.any isSpanSpace)
    let (start, stop) :=
      if trims then
        (start.drop 1, if 1 < whole.length then start.drop (whole.length - 1) else close)
      else (start, close)
    spanText close trims true start stop inside

/-- Reads the title of a link between parentheses, up to its closing quote and with a bound on the
number of steps. At a line end it goes on with the next piece. -/
def linkTitle? (around : Surroundings) (pieces : List Piece) (opening close : Char) :
    Nat → List Char → Option (List Char × List Char)
  | 0, _ => none
  | _ + 1, [] => none
  | n + 1, c :: rest =>
    let go := linkTitle? around pieces opening close n
    let plain := (go rest).map fun found => (c :: found.1, found.2)
    if c = close then some ([], rest)
    else if c = opening then none
    else
      let here := rest.length + 1 + around.stop.length
      let next := if isLineEnd c then
          (pieces.dropWhile fun p => here - 1 ≤ p.stop.length).head?.filter
            fun p => p.start.length < here
        else none
      match next with
      | some p => (go (around.visible p.start)).map fun found => ('\n' :: found.1, found.2)
      | none =>
        if c = '&' then
          match entity? (c :: rest) with
          | some (value, after) => (go after).map fun found => (value ++ found.1, found.2)
          | none => plain
        else if c = '\\' then
          match rest with
          | d :: after =>
            if Text.isAsciiPunctuation d then (go after).map fun found => (d :: found.1, found.2)
            else plain
          | [] => plain
        else plain

/-- Reads the destination and title of a link between parentheses. -/
def inlineTarget? (around : Surroundings) (pieces : List Piece) (s : List Char) :
    Option (Target × List Char) :=
  match s with
  | '(' :: rest =>
    match destination? 5 (rest.dropWhile isSpaceOrEnd) with
    | none => none
    | some (destination, after) =>
      let spaced := after.dropWhile isSpaceOrEnd
      let (title, after) :=
        match spaced with
        | [] => ([], spaced)
        | c :: rest =>
          match (titleClose? c).bind fun close =>
            linkTitle? around pieces c close (rest.length + 1) rest with
          | some (title, after) => (title, after.dropWhile isSpaceOrEnd)
          | none => ([], spaced)
      match after with
      | ')' :: rest =>
        some (⟨String.ofList (resolved destination), String.ofList title, false⟩, rest)
      | _ => none
  | _ => none

/-- A bracket that may open a link or an image, and what follows it. -/
structure OpenBracket where
  piece : Piece
  isImage : Bool
  /-- A link cannot hold a link, so a link closes all brackets around it to links. -/
  isDisabled : Bool
  after : List Part

def textPart (s : List Char) : Part := .node (.text (String.ofList s))

def OpenBracket.parts (b : OpenBracket) : List Part := textPart b.piece.source :: b.after

/-- What has been read of a paragraph: the parts before the first open bracket, and the open
brackets, the innermost first. -/
structure Reading where
  parts : List Part
  brackets : List OpenBracket

namespace Reading

def add (parts : List Part) (r : Reading) : Reading :=
  match r.brackets with
  | [] => { r with parts := r.parts ++ parts }
  | b :: outer => { r with brackets := { b with after := b.after ++ parts } :: outer }

/-- Adds a link or an image that the innermost open bracket begins. -/
def addLink (target : Target) (r : Reading) : Reading :=
  match r.brackets with
  | [] => r
  | b :: outer =>
    let outer :=
      if b.isImage then outer
      else outer.map fun o => if o.isImage then o else { o with isDisabled := true }
    let tag := if b.isImage then Tag.image target else Tag.link target
    { r with brackets := outer }.add [.node (.element tag (emphasize b.after))]

/-- Gives up the innermost open bracket, and adds the text of the closing bracket. -/
def giveUp (closing : Piece) (r : Reading) : Reading :=
  match r.brackets with
  | [] => r.add [textPart closing.source]
  | b :: outer => { r with brackets := outer }.add (b.parts ++ [textPart closing.source])

def finish (r : Reading) : List Part := r.parts ++ r.brackets.reverse.flatMap OpenBracket.parts

end Reading

/-- Reads a label in a paragraph from its opening bracket on. -/
def labelAt? (around : Surroundings) (s : List Char) : Option (List Char × List Char) :=
  match s with
  | '[' :: rest => label? around.nextLine rest
  | _ => none

/-- How a closing bracket refers to a definition. -/
structure Reference where
  /-- The label, if it is one. -/
  label : Option (List Char)
  /-- The pieces behind the link. -/
  after : List Piece
  /-- The pieces behind the bracket if there is no definition. -/
  otherwise : List Piece

/-- Reads what follows a closing bracket: a label in brackets of its own, empty brackets, or
neither. In the latter cases the text between the brackets is the label, unless it has been `tried`.
-/
def reference? (around : Surroundings) (opening : Piece) (closing : Piece) (tried : Bool)
    (rest : List Piece) : Option Reference :=
  let own := fun (after : List Piece) =>
    if tried then none
    else
      let start := opening.stop.length + 1
      let opened := opening.start.drop (opening.start.length - start)
      some ⟨(labelAt? around (between opened closing.stop)).map (·.1), after, rest⟩
  match rest with
  | [] => own []
  | next :: more =>
    let s := around.visible next.start
    if startsWith ['[', ']'] s then own (more.drop 1)
    else match labelAt? around s with
      | none => own rest
      | some (label, after) =>
        let last := s.drop (s.length - after.length - 1)
        let place := around.placeOf next.start last
        match piecesBeyond place rest with
        | [] => none
        | closer :: behind =>
          let before := rest.take (rest.length - (behind.length + 1))
          some ⟨some label, behind, before ++ { closer with mark := .closing true } :: behind⟩

def closeBracket (around : Surroundings) (closing : Piece) (tried : Bool) (rest : List Piece)
    (r : Reading) : Reading × List Piece :=
  match r.brackets with
  | [] => (r.giveUp closing, rest)
  | b :: _ =>
    if b.isDisabled then (r.giveUp closing, rest)
    else match inlineTarget? around rest (around.visible closing.stop) with
      | some (target, after) =>
        (r.addLink target, piecesFrom (around.placeOf closing.stop after) rest)
      | none =>
        match reference? around b.piece closing tried rest with
        | none => (r.giveUp closing, rest)
        | some reference =>
          match reference.label.bind (targetOf? around.definitions) with
          | some target => (r.addLink target, reference.after)
          | none => (r.giveUp closing, reference.otherwise)

/-- Reads a less-than sign: an address, markup, or text. -/
def readAngle (around : Surroundings) (p : Piece) (rest : List Piece) : Part × List Piece :=
  match rest with
  | [] => (textPart p.source, rest)
  | next :: _ =>
    let s := around.visible next.start
    match address? s with
    | some (target, after) =>
      let place := around.placeOf next.start after
      let shown := String.ofList ((between p.start place).drop 1).dropLast
      (.node (.element (.link target) [.text shown]), piecesFrom place rest)
    | none =>
      match rawInline? around.nextLine s with
      | some (read, after) =>
        let place := around.placeOf next.start after
        let isWhole := read.length = s.length - after.length + 1
        (.node (.html (String.ofList (if isWhole then between p.start place else read))),
          piecesFrom place rest)
      | none => (textPart p.source, rest)

/-- Reads a run of grave accents: a code span, or text. Behind a backslash the first of them is
text. -/
def readTicks (p : Piece) (count : Nat) (isEscaped : Bool) (rest : List Piece) :
    List Part × List Piece :=
  let searched := if isEscaped then count - 1 else count
  if searched = 0 then ([textPart p.source], rest)
  else match splitAtTicks searched rest with
    | none => ([textPart p.source], rest)
    | some (inside, close, after) =>
      let code := Part.node (.code (String.ofList (codeSpan p.stop inside close.start)))
      (if isEscaped then [textPart (p.source.take 1), code] else [code], after)

def readPieces (around : Surroundings) : Nat → List Piece → Reading → Reading
  | 0, _, r => r
  | _ + 1, [], r => r
  | n + 1, p :: rest, r =>
    match p.mark with
    | .text => readPieces around n rest (r.add [textPart p.source])
    | .given s => readPieces around n rest (r.add [textPart s])
    | .html => readPieces around n rest (r.add [.node (.html (String.ofList p.source))])
    | .softBreak => readPieces around n rest (r.add [.node .softBreak])
    | .hardBreak => readPieces around n rest (r.add [.node .hardBreak])
    | .node node => readPieces around n rest (r.add [.node node])
    | .delimiter mark count opens closes =>
      readPieces around n rest (r.add [.delimiter mark count opens closes])
    | .ticks count isEscaped =>
      let (parts, rest) := readTicks p count isEscaped rest
      readPieces around n rest (r.add parts)
    | .angle =>
      let (part, rest) := readAngle around p rest
      readPieces around n rest (r.add [part])
    | .bracket isImage =>
      readPieces around n rest { r with brackets := ⟨p, isImage, false, []⟩ :: r.brackets }
    | .closing tried =>
      let (r, rest) := closeBracket around p tried rest r
      readPieces around n rest r

def inlines (around : Surroundings) (pieces : List Piece) : List Node :=
  emphasize (readPieces around pieces.length pieces ⟨[], []⟩).finish

mutual

def Block.resolve (definitions : List Definition) (containers : List Container) : Block → Piece
  | .leaf piece => piece
  | .group kind start stop inside =>
    let containers := containers ++ kind.container?.toList
    ⟨start, stop, .node (.element kind.tag
      (inlines ⟨definitions, containers, stop⟩ (resolveAll definitions containers inside)))⟩

def resolveAll (definitions : List Definition) (containers : List Container) :
    List Block → List Piece
  | [] => []
  | block :: rest => block.resolve definitions containers :: resolveAll definitions containers rest

end

end EditorBridge.Markdown
