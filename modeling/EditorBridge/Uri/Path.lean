import EditorBridge.Text.Percent

/-!
Paths of URIs. A path is read segment by segment; dot segments are resolved on the way.
-/

namespace EditorBridge.Uri

/-- How the scheme of a URI changes the reading of what follows. -/
inductive SchemeKind where
  | file
  /-- A scheme with domains: backslashes count as slashes. -/
  | special
  | other
  deriving DecidableEq, Repr

/-- Encodes the characters outside printable ASCII, and the characters of `marks`. -/
def encodeWith (marks : List Char) (s : List Char) : List Char :=
  s.flatMap fun c =>
    if c.toNat < 0x20 || 0x7F ≤ c.toNat || marks.contains c then Text.percentChar c else [c]

def pathMarks : List Char := " \x22<>\x60#?\x7b\x7d".toList

def isSlash (kind : SchemeKind) (c : Char) : Bool := c = '/' || (kind != .other && c = '\\')

/-- Whether a text is a letter and a colon, or a bar if `orBar`. -/
def isDrive (orBar : Bool) : List Char → Bool
  | [letter, mark] => letter.isAlpha && (mark = ':' || (orBar && mark = '|'))
  | _ => false

/-- Whether a text begins with a drive that a separator or nothing follows. -/
def beginsWithDrive (s : List Char) : Bool :=
  isDrive true (s.take 2) &&
    match s.drop 2 with
    | [] => true
    | c :: _ => c = '/' || c = '\\' || c = '?' || c = '#'

def lastSegment (path : List Char) : List Char := (path.reverse.takeWhile (· != '/')).reverse

def dropLastSegment (path : List Char) : List Char :=
  path.take (path.length - (lastSegment path).length)

def endsWithSlash (path : List Char) : Bool := path.getLast? = some '/'

/-- A path without its last slash, unless that is the first one or belongs to a drive. -/
def dropLastSlash (path : List Char) : List Char :=
  let before := path.dropLast
  if endsWithSlash path && before.contains '/' && !beginsWithDrive (lastSegment before ++ ['/'])
  then before else path

/-- A path without its last segment; a drive stays. -/
def parent (kind : SchemeKind) (path : List Char) : List Char :=
  let path := dropLastSlash path
  if kind = .file && isDrive false (lastSegment path) then path else dropLastSegment path

def isDot (segment : List Char) : Bool :=
  let s := segment.map Char.toLower
  s = ['.'] || s = ['%', '2', 'e']

def isDotDot (segment : List Char) : Bool :=
  let s := segment.map Char.toLower
  s = ['.', '.'] || s = ['.', '%', '2', 'e'] || s = ['%', '2', 'e', '.'] ||
    s = ['%', '2', 'e', '%', '2', 'e']

def withSlash (path : List Char) : List Char :=
  if endsWithSlash path then path else path ++ ['/']

/-- Adds a segment to a path, and tells whether it is a drive. -/
def addSegment (kind : SchemeKind) (path segment : List Char) (isClosed : Bool) :
    List Char × Bool :=
  let slash := if isClosed then ['/'] else []
  if isDotDot segment then
    let path := parent kind path
    (if isClosed then withSlash path else path, false)
  else if isDot segment then (withSlash path, false)
  else if kind = .file && path.length = 1 && isDrive true segment then
    (path ++ segment.take 1 ++ ':' :: slash, true)
  else (path ++ segment ++ slash, false)

/-- Reads segments up to a question mark or number sign, with a bound on their number. Gives the
path, whether it has a drive, and what follows it. -/
def pathWithin (kind : SchemeKind) :
    Nat → (path : List Char) → (hasDrive : Bool) → List Char → List Char × Bool × List Char
  | 0, path, hasDrive, s => (path, hasDrive, s)
  | n + 1, path, hasDrive, s =>
    let raw := s.takeWhile fun c => !(isSlash kind c || c = '?' || c = '#')
    let rest := s.drop raw.length
    let isClosed := rest.head?.any (isSlash kind)
    let (path, isNewDrive) := addSegment kind path (encodeWith pathMarks raw) isClosed
    let hasDrive := hasDrive || isNewDrive
    if isClosed then pathWithin kind n path hasDrive (rest.drop 1) else (path, hasDrive, rest)

/-- Reads a path of which `path` has been read. The path of a file begins with one slash only. -/
def readPath (kind : SchemeKind) (path s : List Char) : List Char × Bool × List Char :=
  let (path, hasDrive, rest) := pathWithin kind (s.length + 1) path false s
  (if kind = .file then '/' :: path.dropWhile (· = '/') else path, hasDrive, rest)

end EditorBridge.Uri
