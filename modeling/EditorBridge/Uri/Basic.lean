import EditorBridge.Uri.Host
import EditorBridge.Uri.Path

/-!
URIs in their normal form. Reading a URI leaves out white space around it and tabs and line ends in
it, and normalises its scheme, its host, its port and its path.
-/

namespace EditorBridge

structure Uri.Authority where
  /-- The name and password, with the at sign if there are any. -/
  user : List Char
  host : Uri.Host
  port : Option Nat
  deriving DecidableEq, Repr

structure Uri where
  scheme : List Char
  authority : Option Uri.Authority
  path : List Char
  query : Option (List Char)
  fragment : Option (List Char)
  deriving DecidableEq, Repr

namespace Uri

def Authority.write (a : Authority) : List Char :=
  a.user ++ a.host.write ++
    match a.port with
    | some port => ':' :: Nat.toDigits 10 port
    | none => []

/-- A URI as it is written. A path that would look like an authority is set apart from it. -/
def write (u : Uri) : List Char :=
  let start := match u.authority with
    | some authority => '/' :: '/' :: authority.write
    | none =>
      match u.path with
      | '/' :: '/' :: _ => ['/', '.']
      | _ => []
  let part := fun (mark : Char) (s : Option (List Char)) =>
    match s with
    | some s => mark :: s
    | none => []
  u.scheme ++ ':' :: start ++ u.path ++ part '?' u.query ++ part '#' u.fragment

def text (u : Uri) : String := String.ofList u.write

def schemeKind (scheme : List Char) : SchemeKind :=
  if scheme = "file".toList then .file
  else if ["http", "https", "ws", "wss", "ftp"].any fun s => s.toList = scheme then .special
  else .other

/-- The port of a scheme, which is not written. -/
def defaultPort? (scheme : List Char) : Option Nat :=
  if scheme = "http".toList || scheme = "ws".toList then some 80
  else if scheme = "https".toList || scheme = "wss".toList then some 443
  else if scheme = "ftp".toList then some 21
  else none

def readScheme? (s : List Char) : Option (List Char × List Char) :=
  match s with
  | [] => none
  | c :: _ =>
    if !c.isAlpha then none
    else
      let scheme := s.takeWhile fun c => c.isAlphanum || c = '+' || c = '-' || c = '.'
      match s.drop scheme.length with
      | ':' :: rest => some (scheme.map Char.toLower, rest)
      | _ => none

def queryMarks (kind : SchemeKind) : List Char :=
  " \x22#<>".toList ++ (if kind = .other then [] else ['\x27'])

def fragmentMarks : List Char := " \x22<>\x60".toList

def userMarks : List Char := pathMarks ++ "/:;=@[\\]^|".toList

def withQuery (u : Uri) (kind : SchemeKind) (s : List Char) : Uri :=
  let (query, rest) := match s with
    | '?' :: after =>
      let query := after.takeWhile (· != '#')
      (some (encodeWith (queryMarks kind) query), after.drop query.length)
    | _ => (none, s)
  let fragment := match rest with
    | '#' :: after => some (encodeWith fragmentMarks after)
    | _ => none
  { u with query := query, fragment := fragment }

/-- A name and password as they are written in front of the at sign. -/
def writeUser (s : List Char) : List Char :=
  let name := s.takeWhile (· != ':')
  let password := s.drop (name.length + 1)
  let written := encodeWith userMarks name ++
    (if password.isEmpty then [] else ':' :: encodeWith userMarks password)
  if written.isEmpty then [] else written ++ ['@']

/-- Reads a name and password in front of the last at sign of an authority. -/
def readUser (kind : SchemeKind) (s : List Char) : Except UriError (List Char × List Char) :=
  let authority := s.takeWhile fun c => !(isSlash kind c || c = '?' || c = '#')
  let tail := (authority.reverse.takeWhile (· != '@')).reverse
  if tail.length = authority.length then .ok ([], s)
  else
    let user := authority.take (authority.length - tail.length - 1)
    let rest := s.drop (user.length + 1)
    if user.isEmpty then
      match rest with
      | c :: _ =>
        if isSlash kind c || c = '?' || c = '#' then .error .emptyHost else .ok ([], rest)
      | [] => .ok ([], rest)
    else .ok (writeUser user, rest)

/-- The length of a host: it goes up to a colon outside brackets or to what ends the authority. -/
def hostLength (kind : SchemeKind) : (inBrackets : Bool) → List Char → Nat
  | _, [] => 0
  | inBrackets, c :: rest =>
    if (c = ':' && !inBrackets) || isSlash kind c || c = '?' || c = '#' then 0
    else hostLength kind (if c = '[' then true else if c = ']' then false else inBrackets) rest + 1

def readPort (scheme s : List Char) :
    Except UriError (Option Nat × List Char) :=
  let digits := s.takeWhile fun c => '0' ≤ c && c ≤ '9'
  let rest := s.drop digits.length
  let port := (numberIn? 10 digits).getD 0
  if 65535 < port then .error .wrongPort
  else if rest.head?.any fun c => !(isSlash .special c || c = '?' || c = '#') then .error .wrongPort
  else .ok (if digits.isEmpty || some port = defaultPort? scheme then none else some port, rest)

def readAuthority (kind : SchemeKind) (scheme s : List Char) :
    Except UriError (Authority × List Char) := do
  let (user, s) ← readUser kind s
  let length := hostLength kind false s
  let name := s.take length
  let rest := s.drop length
  if kind = .special && name.isEmpty then throw .emptyHost
  let host ← if kind = .special then Host.parse name else Host.parseOpaque name
  let isEmpty := host = .domain []
  if isEmpty && rest.head? = some ':' then throw .emptyHost
  let (port, rest) ← match rest with
    | ':' :: after => readPort scheme after
    | _ => .ok (none, rest)
  if isEmpty && !user.isEmpty then throw .emptyHost
  return (⟨user, host, port⟩, rest)

def localHost : Host := .domain []

def readFile (scheme s : List Char) : Except UriError Uri :=
  let uri := fun (host : Host) (path : List Char) =>
    (⟨scheme, some ⟨[], host, none⟩, path, none, none⟩ : Uri)
  let here := fun (path s : List Char) =>
    let (path, _, rest) := readPath .file path s
    withQuery (uri localHost path) .file rest
  match s with
  | [] => .ok (here ['/'] [])
  | c :: after =>
    if !isSlash .file c then .ok (here ['/'] s)
    else match after with
      | [] => .ok (here [] s)
      | d :: inside =>
        if !isSlash .file d then .ok (here [] s)
        else
          let name := inside.takeWhile fun c => !(isSlash .file c || c = '?' || c = '#')
          let rest := inside.drop name.length
          if isDrive true name then .ok (here ['/'] inside)
          else if name.isEmpty then .ok (here ['/'] rest)
          else match Host.parse name with
            | .error e => .error e
            | .ok host =>
              if host = .domain "localhost".toList then .ok (here ['/'] rest)
              else
                let behind := if rest.head?.any (isSlash .file) then rest.drop 1 else rest
                let (path, hasDrive, rest) := readPath .file ['/'] behind
                .ok (withQuery (uri (if hasDrive then localHost else host) path) .file rest)

def readHierarchical (kind : SchemeKind) (scheme s : List Char) : Except UriError Uri := do
  let (authority, rest) ← readAuthority kind scheme s
  let begins := fun (c : Char) => isSlash kind c
  let (path, rest) :=
    if kind = .special then
      let (path, _, rest) :=
        readPath kind ['/'] (if rest.head?.any begins then rest.drop 1 else rest)
      (path, rest)
    else if rest.head?.all fun c => c = '?' || c = '#' then ([], rest)
    else
      let (path, _, rest) := readPath kind (if rest.head?.any begins then [] else ['/']) rest
      (path, rest)
  return withQuery ⟨scheme, some authority, path, none, none⟩ kind rest

/-- Reads a URI of a scheme without domains behind its colon. -/
def readOther (scheme s : List Char) : Except UriError Uri :=
  match s with
  | '/' :: '/' :: rest => readHierarchical .other scheme rest
  | '/' :: rest =>
    let (path, _, rest) := readPath .other ['/'] rest
    .ok (withQuery ⟨scheme, none, path, none, none⟩ .other rest)
  | _ =>
    let path := s.takeWhile fun c => !(c = '?' || c = '#')
    .ok (withQuery ⟨scheme, none, encodeWith [] path, none, none⟩ .other (s.drop path.length))

def isAround (c : Char) : Bool := c.toNat ≤ 0x20

def parse (text : String) : Except UriError Uri :=
  let trimmed := ((text.toList.dropWhile isAround).reverse.dropWhile isAround).reverse
  let s := trimmed.filter fun c => !(c = '\t' || c = '\n' || c = '\r')
  match readScheme? s with
  | none => .error .noScheme
  | some (scheme, rest) =>
    match schemeKind scheme with
    | .file => readFile scheme rest
    | .special => readHierarchical .special scheme (rest.dropWhile (isSlash .special))
    | .other => readOther scheme rest

/-- The path of a file on this machine, as bytes. Only the host and the path decide; a path that
ends with a drive has a slash behind it. -/
def filePath? (u : Uri) : Option (List UInt8) :=
  let isHere : Bool := match u.authority with
    | none => true
    | some authority =>
      authority.host = localHost || authority.host = .domain "localhost".toList
  match u.path with
  | '/' :: _ =>
    if isHere then
      let bytes := (splitAt '/' u.path).tail.flatMap fun segment =>
        0x2F :: percentDecode (Text.utf8 segment)
      let isLetter := fun (b : UInt8) => (Char.ofNat b.toNat).isAlpha
      match bytes.reverse with
      | mark :: letter :: _ :: _ =>
        some (if isLetter letter && (mark = 0x3A || mark = 0x7C) then bytes ++ [0x2F] else bytes)
      | _ => some bytes
    else none
  | _ => none

end Uri

end EditorBridge
