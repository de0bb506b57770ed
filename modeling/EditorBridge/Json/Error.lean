import EditorBridge.Json.Printer
import EditorBridge.Text.Quoted

/-!
What can be wrong with JSON text or with a JSON value, and where. Lines are counted from one; a
column is the number of bytes since the last line feed.
-/

namespace EditorBridge.Json

inductive Found where
  | null
  | bool (b : Bool)
  | number (n : Number)
  | string (s : String)
  | array
  | object

def Value.found : Value → Found
  | .null => .null
  | .bool b => .bool b
  | .number n => .number n
  | .string s => .string s
  | .array _ => .array
  | .object _ => .object

def Found.describe : Found → String
  | .null => "null"
  | .bool b => "boolean \x60" ++ (if b then "true" else "false") ++ "\x60"
  | .number (.integer n) => "integer \x60" ++ String.ofList (printInt n) ++ "\x60"
  | .number (.double x) => "floating point \x60" ++ String.ofList (printDouble x) ++ "\x60"
  | .string s => "string " ++ Text.quoted s
  | .array => "sequence"
  | .object => "map"

inductive Cause where
  | endInList
  | endInObject
  | endInString
  | endInValue
  | expectedColon
  | expectedListEnd
  | expectedObjectEnd
  | expectedWord
  | expectedValue
  | invalidEscape
  | invalidNumber
  | numberOutOfRange
  | controlCharacter
  | keyNotString
  | loneSurrogate
  | trailingComma
  | trailingCharacters
  | unfinishedSurrogate
  | tooDeep
  | wrongType (found : Found) (expected : String)
  | wrongValue (found : Found) (expected : String)
  | wrongLength (length : Nat) (expected : String)
  | repeatedField (name : String)
  | missingField (name : String)
  /-- A text that does not have the form it should have. -/
  | malformed (message : String)

def Cause.message : Cause → String
  | endInList => "EOF while parsing a list"
  | endInObject => "EOF while parsing an object"
  | endInString => "EOF while parsing a string"
  | endInValue => "EOF while parsing a value"
  | expectedColon => "expected \x60:\x60"
  | expectedListEnd => "expected \x60,\x60 or \x60]\x60"
  | expectedObjectEnd => "expected \x60,\x60 or \x60\x7d\x60"
  | expectedWord => "expected ident"
  | expectedValue => "expected value"
  | invalidEscape => "invalid escape"
  | invalidNumber => "invalid number"
  | numberOutOfRange => "number out of range"
  | controlCharacter => "control character (\\u0000-\\u001F) found while parsing a string"
  | keyNotString => "key must be a string"
  | loneSurrogate => "lone leading surrogate in hex escape"
  | trailingComma => "trailing comma"
  | trailingCharacters => "trailing characters"
  | unfinishedSurrogate => "unexpected end of hex escape"
  | tooDeep => "recursion limit exceeded"
  | wrongType found expected => "invalid type: " ++ found.describe ++ ", expected " ++ expected
  | wrongValue found expected => "invalid value: " ++ found.describe ++ ", expected " ++ expected
  | wrongLength length expected =>
    "invalid length " ++ String.ofList (Nat.toDigits 10 length) ++ ", expected " ++ expected
  | repeatedField name => "duplicate field \x60" ++ name ++ "\x60"
  | missingField name => "missing field \x60" ++ name ++ "\x60"
  | malformed message => message

structure Position where
  line : Nat
  column : Nat
  deriving DecidableEq, Repr

def Position.after (p : Position) (s : List Char) : Position :=
  s.foldl (fun p c => if c = '\n' then ⟨p.line + 1, 0⟩ else ⟨p.line, p.column + c.utf8Size⟩) p

/-- The position a number of bytes further on in a text. -/
def Position.ahead (p : Position) : Nat → List Char → Position
  | _, [] => p
  | bytes, c :: rest =>
    if bytes = 0 then p
    else if c.utf8Size ≤ bytes then (p.after [c]).ahead (bytes - c.utf8Size) rest
    else ⟨p.line, p.column + bytes⟩

structure ReadError where
  cause : Cause
  position : Option Position

def ReadError.message (e : ReadError) : String :=
  match e.position with
  | none => e.cause.message
  | some p =>
    e.cause.message ++ " at line " ++ String.ofList (Nat.toDigits 10 p.line) ++ " column " ++
      String.ofList (Nat.toDigits 10 p.column)

end EditorBridge.Json
