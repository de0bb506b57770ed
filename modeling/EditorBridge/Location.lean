import EditorBridge.Json.Error
import EditorBridge.Uri.Basic

/-!
Places in files: a URI and a range of positions, and their JSON values. A record of two fields is an
object with two members or a list of two items.
-/

namespace EditorBridge

/-- A position in a text. Lines and characters are counted from zero, in words of 32 bits. -/
structure TextPosition where
  lineIndex : UInt32
  characterIndex : UInt32
  deriving DecidableEq, Repr

def TextPosition.line (position : TextPosition) : Nat := position.lineIndex.toNat

def TextPosition.character (position : TextPosition) : Nat := position.characterIndex.toNat

structure TextRange where
  start : TextPosition
  stop : TextPosition
  deriving DecidableEq, Repr

structure Location where
  uri : Uri
  range : TextRange
  deriving DecidableEq, Repr

namespace Location

open Json (Cause Value)

def wrongType {α : Type} (value : Value) (expected : String) : Except Cause α :=
  .error (.wrongType value.found expected)

variable {α β : Type}

def readMembers (first second : String) (readFirst : Value → Except Cause α)
    (readSecond : Value → Except Cause β) :
    Option α × Option β → List (String × Value) → Except Cause (α × β)
  | (none, _), [] => .error (.missingField first)
  | (some _, none), [] => .error (.missingField second)
  | (some a, some b), [] => .ok (a, b)
  | (a, b), (name, value) :: rest =>
    if name = first then
      match readFirst value with
      | .error cause => .error cause
      | .ok a => readMembers first second readFirst readSecond (some a, b) rest
    else if name = second then
      match readSecond value with
      | .error cause => .error cause
      | .ok b => readMembers first second readFirst readSecond (a, some b) rest
    else readMembers first second readFirst readSecond (a, b) rest

def readPair (kind first second : String) (readFirst : Value → Except Cause α)
    (readSecond : Value → Except Cause β) (value : Value) : Except Cause (α × β) :=
  let expected := "struct " ++ kind
  let tooShort := fun (n : Nat) => Cause.wrongLength n (expected ++ " with 2 elements")
  match value with
  | .object members => readMembers first second readFirst readSecond (none, none) members
  | .array [] => .error (tooShort 0)
  | .array [a] =>
    match readFirst a with
    | .error cause => .error cause
    | .ok _ => .error (tooShort 1)
  | .array (a :: b :: rest) =>
    match readFirst a, readSecond b with
    | .error cause, _ => .error cause
    | .ok _, .error cause => .error cause
    | .ok a, .ok b =>
      if rest.isEmpty then .ok (a, b)
      else .error (.wrongLength (rest.length + 2) "fewer elements in array")
  | value => wrongType value expected

/-- Reads a word of 32 bits. A number that does not fit is refused. -/
def readIndex (value : Value) : Except Cause UInt32 :=
  match value with
  | .number (.integer n) =>
    if 0 ≤ n && n ≤ 4294967295 then .ok n.toNat.toUInt32
    else .error (.wrongValue value.found "u32")
  | value => wrongType value "u32"

def readPosition (value : Value) : Except Cause TextPosition :=
  (readPair "Position" "line" "character" readIndex readIndex value).map fun (line, character) =>
    ⟨line, character⟩

def readRange (value : Value) : Except Cause TextRange :=
  (readPair "Range" "start" "end" readPosition readPosition value).map fun (start, stop) =>
    ⟨start, stop⟩

def readUri (value : Value) : Except Cause Uri :=
  match value with
  | .string s =>
    match Uri.parse s with
    | .ok uri => .ok uri
    | .error e => .error (.malformed (e.message ++ ": " ++ Text.quoted s))
  | value => wrongType value "a string representing an URL"

def ofValue (value : Value) : Except Cause Location :=
  (readPair "Location" "uri" "range" readUri readRange value).map fun (uri, range) =>
    ⟨uri, range⟩

end Location

end EditorBridge
