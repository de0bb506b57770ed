import EditorBridge.Json.Printer
import EditorBridge.Text.Quoted
import EditorBridge.Text.Utf8
import EditorBridge.Toml.Node

/-!
What is wrong with the values of a document, and the excerpt of the document that shows where.
-/

namespace EditorBridge.Toml

structure Fault where
  message : String
  span : Option Span
  deriving DecidableEq, Repr

def printPlaces (d : Decimal.Scientific) : List Char :=
  let digits := Nat.toDigits 10 d.digits
  let point : Int := d.exponent + digits.length
  if d.digits = 0 then ['0', '.', '0']
  else if 0 ≤ d.exponent then digits ++ List.replicate d.exponent.toNat '0' ++ ['.', '0']
  else if 0 < point then digits.take point.toNat ++ '.' :: digits.drop point.toNat
  else '0' :: '.' :: (List.replicate (-point).toNat '0' ++ digits)

def Fraction.text : Fraction → String
  | .finite x =>
    String.ofList ((if x.isNegative then ['-'] else []) ++
      printPlaces (Decimal.shortest .above x.toBinary))
  | .infinite isNegative => if isNegative then "-inf" else "inf"
  | .nan => "NaN"

def Node.describe : Node → String
  | .string _ s => "string " ++ Text.quoted s
  | .integer _ n => "integer \x60" ++ String.ofList (Json.printInt n) ++ "\x60"
  | .fraction _ x => "floating point \x60" ++ x.text ++ "\x60"
  | .boolean _ b => "boolean \x60" ++ (if b then "true" else "false") ++ "\x60"
  | .array .. => "sequence"
  | .tables .. => "sequence"
  | .dateTime .. => "map"
  | .table .. => "map"

namespace Fault

def wrongType (node : Node) (expected : String) : Fault :=
  ⟨"invalid type: " ++ node.describe ++ ", expected " ++ expected, node.span?⟩

def wrongValue (node : Node) (expected : String) : Fault :=
  ⟨"invalid value: " ++ node.describe ++ ", expected " ++ expected, node.span?⟩

/-- A fault that is somewhere, unless it is known where. -/
def within (span : Option Span) (fault : Fault) : Fault :=
  { fault with span := fault.span.or span }

end Fault

/-- The line of a document that a span begins in, with carets under the span and a message below.
Carets do not go on behind the line. -/
def excerpt (document : List Char) (span : Span) (message : String) : String :=
  let before := document.take (document.length - span.start)
  let column := (before.reverse.takeWhile (· != '\n')).length
  let line := (document.drop (before.length - column)).takeWhile (· != '\n')
  let marked := document.drop before.length |>.take (span.start - span.stop)
  let carets := Nat.max 1 (Nat.min (Text.utf8Length marked) (Text.utf8Length line - column))
  let number := Nat.toDigits 10 (before.count '\n' + 1)
  let margin := List.replicate (number.length + 1) ' '
  "TOML parse error at line " ++ String.ofList number ++ ", column " ++
    String.ofList (Nat.toDigits 10 (column + 1)) ++ "\n" ++
    String.ofList (margin ++ '|' :: '\n' :: number) ++ " | " ++ String.ofList line ++ "\n" ++
    String.ofList (margin ++ '|' :: List.replicate (column + 1) ' ' ++ List.replicate carets '^') ++
    "\n" ++ message ++ "\n"

end EditorBridge.Toml
