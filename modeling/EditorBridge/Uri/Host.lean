import EditorBridge.Text.LowerCase
import EditorBridge.Text.Lines
import EditorBridge.Text.Percent
import EditorBridge.Text.Punycode
import EditorBridge.Text.Utf8

/-!
Hosts of URIs: domains, and addresses of version 4 and 6. A domain whose last label is a number is an
address of version 4.

Of what the standards do with international domains, a part is done here: letters become small, other
forms of full stops and of ASCII become the ordinary ones, marks that are not seen are left out, and
a label with a letter past ASCII is encoded. There is no other mapping, no normal form and no check of
bidirectional or joined text, so circled or fraktur letters stay as they are.
-/

namespace EditorBridge.Uri

inductive UriError where
  | noScheme
  | emptyHost
  | wrongDomain
  | wrongPort
  | wrongIpv4
  | wrongIpv6
  | wrongHostCharacter
  deriving DecidableEq, Repr

def UriError.message : UriError → String
  | .noScheme => "relative URL without a base"
  | .emptyHost => "empty host"
  | .wrongDomain => "invalid international domain name"
  | .wrongPort => "invalid port number"
  | .wrongIpv4 => "invalid IPv4 address"
  | .wrongIpv6 => "invalid IPv6 address"
  | .wrongHostCharacter => "invalid domain character"

inductive Host where
  /-- A name, which may be empty. -/
  | domain (name : List Char)
  | ipv4 (address : Nat)
  | ipv6 (pieces : List Nat)
  deriving DecidableEq, Repr

/-- Cuts a text at each occurrence of a character. -/
def splitAt (mark : Char) : List Char → List (List Char)
  | [] => [[]]
  | c :: rest =>
    if c = mark then [] :: splitAt mark rest
    else match splitAt mark rest with
      | [] => [[c]]
      | part :: parts => (c :: part) :: parts

def hexDigit? (c : Char) : Option Nat :=
  if '0' ≤ c && c ≤ '9' then some (c.toNat - '0'.toNat)
  else if 'a' ≤ c && c ≤ 'f' then some (c.toNat - 'a'.toNat + 10)
  else if 'A' ≤ c && c ≤ 'F' then some (c.toNat - 'A'.toNat + 10)
  else none

/-- Decodes percent encoding; a percent sign without two digits stands for itself. -/
def percentDecode : List UInt8 → List UInt8
  | [] => []
  | b :: rest =>
    if b = 0x25 then
      match rest with
      | x :: y :: after =>
        match hexDigit? (Char.ofNat x.toNat), hexDigit? (Char.ofNat y.toNat) with
        | some m, some n => UInt8.ofNat (16 * m + n) :: percentDecode after
        | _, _ => b :: percentDecode (x :: y :: after)
      | after => b :: percentDecode after
    else b :: percentDecode rest

def numberIn? (base : Nat) (digits : List Char) : Option Nat :=
  digits.foldl (fun n c =>
    n.bind fun n => ((hexDigit? c).filter (· < base)).map fun d => base * n + d) (some 0)

/-- A number of an address: hexadecimal behind `0x`, octal behind another zero, or decimal. -/
def addressNumber? (s : List Char) : Option Nat :=
  match s with
  | [] => none
  | '0' :: c :: rest => if c = 'x' || c = 'X' then numberIn? 16 rest else numberIn? 8 (c :: rest)
  | _ => numberIn? 10 s

/-- The labels of a domain, without an empty one at the end. -/
def labels (domain : List Char) : List (List Char) :=
  let parts := splitAt '.' domain
  if parts.getLast? = some [] then parts.dropLast else parts

def endsInNumber (domain : List Char) : Bool :=
  match (labels domain).getLast? with
  | none => false
  | some last =>
    (!last.isEmpty && last.all fun c => '0' ≤ c && c ≤ '9') || (addressNumber? last).isSome

/-- An address of version 4: up to four numbers, of which the last one fills what the others leave.
-/
def ipv4? (domain : List Char) : Option Nat :=
  let parts := labels domain
  match parts.mapM addressNumber? with
  | none => none
  | some numbers =>
    match numbers.getLast? with
    | none => none
    | some last =>
      let bytes := numbers.dropLast
      let room := Nat.pow 256 (4 - bytes.length)
      if 4 < numbers.length || bytes.any (255 < ·) || room ≤ last then none
      else some (bytes.zipIdx.foldl (fun n (b, i) => n + b * Nat.pow 256 (3 - i)) last)

/-- The last two pieces of an address of version 6, written as an address of version 4. -/
def trailingIpv4? (s : List Char) : Option (List Nat) :=
  let byte := fun (digits : List Char) =>
    if digits.isEmpty || (1 < digits.length && digits.head? = some '0') then none
    else (numberIn? 10 digits).filter (· ≤ 255)
  match (splitAt '.' s).mapM byte with
  | some [a, b, c, d] => some [256 * a + b, 256 * c + d]
  | _ => none

/-- The pieces of an address of version 6 between colons. `isLast` tells whether nothing follows. -/
def pieces? (isLast : Bool) : List (List Char) → Option (List Nat)
  | [] => some []
  | part :: rest =>
    if part.contains '.' then
      if isLast && rest.isEmpty then trailingIpv4? part else none
    else if part.isEmpty || 4 < part.length then none
    else match numberIn? 16 part, pieces? isLast rest with
      | some n, some more => some (n :: more)
      | _, _ => none

def splitPair : List Char → Option (List Char × List Char)
  | ':' :: ':' :: rest => some ([], rest)
  | c :: rest => (splitPair rest).map fun (before, after) => (c :: before, after)
  | [] => none

/-- An address of version 6: eight pieces, of which a pair of colons leaves out zeros. -/
def ipv6? (s : List Char) : Option (List Nat) :=
  let parts := fun (s : List Char) => if s.isEmpty then [] else splitAt ':' s
  match splitPair s with
  | none => (pieces? true (parts s)).filter fun pieces => pieces.length = 8
  | some (before, after) =>
    match pieces? false (parts before), pieces? true (parts after) with
    | some front, some back =>
      if front.length + back.length ≤ 7 then
        some (front ++ List.replicate (8 - front.length - back.length) 0 ++ back)
      else none
    | _, _ => none

/-- The first of the longest runs of zeros, as the index of its beginning and its length. -/
def longestZeros (pieces : List Nat) : Nat × Nat :=
  (List.range pieces.length).foldl (fun best i =>
    let length := ((pieces.drop i).takeWhile (· = 0)).length
    if best.2 < length then (i, length) else best) (0, 0)

def writePieces (pieces : List Nat) : List Char :=
  Text.joinWith [':'] (pieces.map (Nat.toDigits 16))

def Host.write : Host → List Char
  | .domain name => name
  | .ipv4 address =>
    Text.joinWith ['.'] ([3, 2, 1, 0].map fun i => Nat.toDigits 10 (address / Nat.pow 256 i % 256))
  | .ipv6 pieces =>
    let (start, length) := longestZeros pieces
    '[' :: (if length < 2 then writePieces pieces
      else writePieces (pieces.take start) ++ ':' :: ':' ::
        writePieces (pieces.drop (start + length))) ++ [']']

/-- Whether a domain may not hold a character of ASCII. -/
def isForbidden (c : Char) : Bool :=
  c.toNat ≤ 0x20 || c.toNat = 0x7F || "%#/:<>?@[\\]^|".toList.contains c

/-- The characters that a domain has in place of one: other forms of full stops and of ASCII become
the ordinary ones, capitals become small, and marks that are not seen are left out. -/
def domainChar (c : Char) : List Char :=
  let n := c.toNat
  if n = 0x3002 || n = 0xFF0E || n = 0xFF61 then ['.']
  else if 0xFF01 ≤ n && n ≤ 0xFF5E then Text.lowerChar (Char.ofNat (n - 0xFEE0))
  else if n = 0xAD || n = 0x200B || n = 0x2060 || n = 0xFEFF || (0xFE00 ≤ n && n ≤ 0xFE0F) then []
  else Text.lowerChar c

/-- Whether a domain may not hold a character past ASCII: controls, spaces and specials. -/
def isUnusable (c : Char) : Bool :=
  let n := c.toNat
  (0x80 ≤ n && n ≤ 0xA0) || (0x2000 ≤ n && n ≤ 0x200F) || (0x2028 ≤ n && n ≤ 0x202F) ||
    (0x205F ≤ n && n ≤ 0x206F) || n = 0x3000 || (0xE000 ≤ n && n ≤ 0xF8FF) ||
    (0xFFF0 ≤ n && n ≤ 0xFFFF)

def asciiLabel? (label : List Char) : Option (List Char) :=
  match label with
  | 'x' :: 'n' :: '-' :: '-' :: code =>
    match Text.Punycode.decode? code with
    | some s =>
      if (s.all fun c => c.toNat < 0x80) || s.any isUnusable || s.flatMap domainChar != s then none
      else some label
    | none => none
  | _ =>
    if label.all fun c => c.toNat < 0x80 then some label
    else some ('x' :: 'n' :: '-' :: '-' :: Text.Punycode.encode label)

def asciiDomain? (bytes : List UInt8) : Option (List Char) :=
  match Text.ofUtf8? bytes with
  | none => none
  | some s =>
    let mapped := s.flatMap domainChar
    if mapped.any fun c => if c.toNat < 0x80 then isForbidden c else isUnusable c then none
    else ((splitAt '.' mapped).mapM asciiLabel?).map (Text.joinWith ['.'])

def bracketed (s : List Char) : Except UriError Host :=
  if s.getLast? = some ']' then
    match ipv6? s.dropLast with
    | some pieces => .ok (.ipv6 pieces)
    | none => .error .wrongIpv6
  else .error .wrongIpv6

def Host.parse (s : List Char) : Except UriError Host :=
  match s with
  | '[' :: rest => bracketed rest
  | _ =>
    match asciiDomain? (percentDecode (Text.utf8 s)) with
    | none => .error .wrongDomain
    | some name =>
      if name.isEmpty then .error .emptyHost
      else if endsInNumber name then
        match ipv4? name with
        | some address => .ok (.ipv4 address)
        | none => .error .wrongIpv4
      else .ok (.domain name)

def isWrongHostCharacter (c : Char) : Bool :=
  c.toNat = 0 || "\t\n\r #/:<>?@[\\]^|".toList.contains c

def Host.parseOpaque (s : List Char) : Except UriError Host :=
  match s with
  | '[' :: rest => bracketed rest
  | _ =>
    if s.any isWrongHostCharacter then .error .wrongHostCharacter
    else .ok (.domain (s.flatMap fun c =>
      if c.toNat < 0x20 || 0x7F ≤ c.toNat then Text.percentChar c else [c]))

end EditorBridge.Uri
