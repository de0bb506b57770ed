import EditorBridge.Text.Percent
import EditorBridge.Text.Replace

/-!
Text in HTML. Escaped text holds no character that begins a tag or an entity or ends an attribute;
decoding takes escaped text back to what it shows.
-/

namespace EditorBridge.Html

/-- A character of text or of an attribute's value. -/
def escapeChar (c : Char) : List Char :=
  if c = '&' then ['&', 'a', 'm', 'p', ';']
  else if c = '<' then ['&', 'l', 't', ';']
  else if c = '>' then ['&', 'g', 't', ';']
  else if c = '\x22' then ['&', 'q', 'u', 'o', 't', ';']
  else [c]

/-- A text as it is written between tags or in the value of an attribute. -/
def escape (s : List Char) : List Char := s.flatMap escapeChar

@[simp] theorem escape_nil : escape [] = [] := rfl

@[simp] theorem escape_cons (c : Char) (s : List Char) :
    escape (c :: s) = escapeChar c ++ escape s := rfl

@[simp] theorem escape_append (s t : List Char) : escape (s ++ t) = escape s ++ escape t := by
  simp [escape]

/-- The named entities that plain text knows, with the characters they show. The ampersand comes
last, so that an ampersand that has been decoded begins no entity. -/
def entities : List (List Char × Char) :=
  [(['&', 'l', 't', ';'], '<'), (['&', 'g', 't', ';'], '>'),
    (['&', 'q', 'u', 'o', 't', ';'], '\x22'), (['&', '#', '3', '9', ';'], '\x27'),
    (['&', 'n', 'b', 's', 'p', ';'], ' '), (['&', 'a', 'm', 'p', ';'], '&')]

/-- Decodes the entities, one kind after the other. -/
def decode (s : List Char) : List Char :=
  entities.foldl (fun s entity => Text.replaceAll entity.1 [entity.2] s) s

def entityAt? (s : List Char) : Option (List Char × Char) :=
  entities.find? fun entity => entity.1.isPrefixOf s

/-- Decodes the entities behind the first `skipped` characters, all kinds in one pass. -/
def decodeFrom : (skipped : Nat) → List Char → List Char
  | _, [] => []
  | skipped + 1, _ :: rest => decodeFrom skipped rest
  | 0, c :: rest =>
    match entityAt? (c :: rest) with
    | some (name, shown) => shown :: decodeFrom (name.length - 1) rest
    | none => c :: decodeFrom 0 rest

/-- Decodes the entities in one pass from left to right. -/
def decodeOnce (s : List Char) : List Char := decodeFrom 0 s

def isAddressChar (c : Char) : Bool :=
  c.isAlphanum || "!#$%()*+,-./:;=?@_~".toList.contains c

def escapeAddressChar (c : Char) : List Char :=
  if isAddressChar c then [c]
  else if c = '&' then ['&', 'a', 'm', 'p', ';']
  else if c = '\x27' then ['&', '#', 'x', '2', '7', ';']
  else Text.percentChar c

def escapeAddress (s : List Char) : List Char := s.flatMap escapeAddressChar

end EditorBridge.Html
