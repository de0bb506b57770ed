import EditorBridge.Decimal.Shortest
import EditorBridge.Json.Value
import EditorBridge.Text.Lines

/-!
JSON text without white space. Doubles are written with the fewest digits that read back: by places
if the first digit has an exponent from -5 to 15, and otherwise with the exponent.
-/

namespace EditorBridge.Json

def controlDigits (n : Nat) : List Char :=
  let digits := Nat.toDigits 16 n
  List.replicate (4 - digits.length) '0' ++ digits

def escapeChar (c : Char) : List Char :=
  let n := c.toNat
  if c = '\x22' then ['\\', '\x22']
  else if c = '\\' then ['\\', '\\']
  else if n = 8 then ['\\', 'b']
  else if n = 9 then ['\\', 't']
  else if n = 10 then ['\\', 'n']
  else if n = 12 then ['\\', 'f']
  else if n = 13 then ['\\', 'r']
  else if n < 0x20 then '\\' :: 'u' :: controlDigits n
  else [c]

def printString (s : String) : List Char :=
  '\x22' :: s.toList.flatMap escapeChar ++ ['\x22']

def printInt (n : Int) : List Char :=
  if n < 0 then '-' :: Nat.toDigits 10 n.natAbs else Nat.toDigits 10 n.natAbs

def printMagnitude (d : Decimal.Scientific) : List Char :=
  let digits := Nat.toDigits 10 d.digits
  let point : Int := d.exponent + digits.length
  if d.digits = 0 then ['0', '.', '0']
  else if 0 ≤ d.exponent && point ≤ 16 then
    digits ++ List.replicate d.exponent.toNat '0' ++ ['.', '0']
  else if 0 < point && point ≤ 16 then
    digits.take point.toNat ++ '.' :: digits.drop point.toNat
  else if -5 < point && point ≤ 0 then
    '0' :: '.' :: (List.replicate (-point).toNat '0' ++ digits)
  else
    let exponent := point - 1
    let fraction := digits.drop 1
    digits.take 1 ++ (if fraction.isEmpty then [] else '.' :: fraction) ++ ['e'] ++
      (if exponent < 0 then ['-'] else ['+']) ++ Nat.toDigits 10 exponent.natAbs

def printDouble (x : Decimal.Double) : List Char :=
  (if x.isNegative then ['-'] else []) ++ printMagnitude (Decimal.shortest .even x.toBinary)

def printNumber : Number → List Char
  | .integer n => printInt n
  | .double x => printDouble x

mutual

def printValue : Value → List Char
  | .null => ['n', 'u', 'l', 'l']
  | .bool true => ['t', 'r', 'u', 'e']
  | .bool false => ['f', 'a', 'l', 's', 'e']
  | .number n => printNumber n
  | .string s => printString s
  | .array items => '[' :: printItems items ++ [']']
  | .object members => '\x7b' :: printMembers members ++ ['\x7d']

def printItems : List Value → List Char
  | [] => []
  | [item] => printValue item
  | item :: rest => printValue item ++ ',' :: printItems rest

def printMembers : List (String × Value) → List Char
  | [] => []
  | [(name, value)] => printString name ++ ':' :: printValue value
  | (name, value) :: rest => printString name ++ ':' :: printValue value ++ ',' :: printMembers rest

end

def Value.text (value : Value) : String := String.ofList (printValue value)

end EditorBridge.Json
