import EditorBridge.Decimal.Shortest

/-!
TOML documents. Every value knows where it stands; a table that is only implied by the names of
others does not.
-/

namespace EditorBridge.Toml

/-- A stretch of a document, as the numbers of characters from its two ends to the end of the
document. -/
structure Span where
  start : Nat
  stop : Nat
  deriving DecidableEq, Repr

/-- A part of a name, and where it stands. -/
structure Key where
  name : String
  span : Span
  deriving DecidableEq, Repr

structure TableForm where
  /-- Between braces. -/
  isInline : Bool
  /-- Only implied by longer names. -/
  isImplied : Bool
  /-- Implied by a dotted name in front of a value. -/
  isDotted : Bool
  deriving DecidableEq, Repr

inductive Fraction where
  | finite (x : Decimal.Double)
  | infinite (isNegative : Bool)
  | nan
  deriving DecidableEq, Repr

inductive Node where
  | string (span : Span) (s : String)
  | integer (span : Span) (n : Int)
  | fraction (span : Span) (x : Fraction)
  | boolean (span : Span) (b : Bool)
  | dateTime (span : Span)
  | array (span : Span) (items : List Node)
  | table (form : TableForm) (span : Option Span) (entries : List (Key × Node))
  /-- The tables of repeated headers. -/
  | tables (items : List Node)
  deriving Repr

namespace Node

def tableSpan? : Node → Option Span
  | .table _ span _ => span
  | _ => none

/-- Where a node stands. Repeated tables stand from the first to the last. -/
def span? : Node → Option Span
  | .string span _ => some span
  | .integer span _ => some span
  | .fraction span _ => some span
  | .boolean span _ => some span
  | .dateTime span => some span
  | .array span _ => some span
  | .table _ span _ => span
  | .tables items =>
    match items.head?.bind tableSpan?, items.getLast?.bind tableSpan? with
    | some first, some last => some ⟨first.start, last.stop⟩
    | _, _ => none

def kindName : Node → String
  | .string .. => "string"
  | .integer .. => "integer"
  | .fraction .. => "float"
  | .boolean .. => "boolean"
  | .dateTime .. => "datetime"
  | .array .. => "array"
  | .table form _ _ => if form.isInline then "inline table" else "table"
  | .tables .. => "array of tables"

end Node

/-- The form of a table with a header, and of the document itself. -/
def headedForm : TableForm := ⟨false, false, false⟩

def inlineForm : TableForm := ⟨true, false, false⟩

def find? (name : String) (entries : List (Key × Node)) : Option Node :=
  (entries.find? fun entry => entry.1.name = name).map (·.2)

def replaceEntry (name : String) (node : Node) (entries : List (Key × Node)) :
    List (Key × Node) :=
  entries.map fun entry => if entry.1.name = name then (entry.1, node) else entry

/-- Changes the table that a path leads to. Tables that are not there are implied, by a dotted name
if `isDotted`; a path goes through the last of repeated tables. Nothing if the path leads through a
value, or a dotted one through a table with a header. -/
def changeAt (isInline isDotted : Bool) (change : Node → Option Node) :
    List Key → Node → Option Node
  | [], node => change node
  | key :: path, .table form span entries =>
    match find? key.name entries with
    | none =>
      (changeAt isInline isDotted change path (.table ⟨isInline, true, isDotted⟩ none [])).map
        fun child => .table form span (entries ++ [(key, child)])
    | some (.table childForm childSpan inside) =>
      if childForm.isInline != isInline || (isDotted && !childForm.isImplied) then none
      else (changeAt isInline isDotted change path (.table childForm childSpan inside)).map
        fun child => .table form span (replaceEntry key.name child entries)
    | some (.tables items) =>
      match items.getLast? with
      | none => none
      | some last => (changeAt isInline isDotted change path last).map fun child =>
        .table form span (replaceEntry key.name (.tables (items.dropLast ++ [child])) entries)
    | some _ => none
  | _ :: _, _ => none

/-- Adds a value to a table by its dotted name. A name may be used once, and a dotted name may not
go on with a table that is not dotted itself. -/
def addValue (isInline : Bool) (path : List Key) (key : Key) (value : Node) (table : Node) :
    Option Node :=
  changeAt isInline true (fun node =>
    match node with
    | .table form span entries =>
      if form.isDotted = path.isEmpty || (find? key.name entries).isSome then none
      else some (.table form span (entries ++ [(key, value)]))
    | _ => none) path table

/-- Adds the table of a header, which takes over a table that longer names have implied. -/
def addTable (path : List Key) (key : Key) (span : Span) (root : Node) : Option Node :=
  changeAt false false (fun node =>
    match node with
    | .table form outer entries =>
      match find? key.name entries with
      | none => some (.table form outer (entries ++ [(key, .table headedForm (some span) [])]))
      | some (.table child _ inside) =>
        if child.isImplied && !child.isDotted then
          let others := entries.filter fun entry => entry.1.name != key.name
          some (.table form outer (others ++ [(key, .table headedForm (some span) inside)]))
        else none
      | some _ => none
    | _ => none) path root

def addRepeated (path : List Key) (key : Key) (span : Span) (root : Node) : Option Node :=
  let added : Node := .table headedForm (some span) []
  changeAt false false (fun node =>
    match node with
    | .table form outer entries =>
      match find? key.name entries with
      | none => some (.table form outer (entries ++ [(key, .tables [added])]))
      | some (.tables items) =>
        some (.table form outer (replaceEntry key.name (.tables (items ++ [added])) entries))
      | some _ => none
    | _ => none) path root

/-- Adds a value to the table of the last header, which then reaches to the value's end. -/
def addUnder (header path : List Key) (key : Key) (value : Node) (root : Node) : Option Node :=
  changeAt false false (fun table =>
    let longer := match table, value.span? with
      | .table form (some span) entries, some last =>
        .table form (some ⟨span.start, last.stop⟩) entries
      | _, _ => table
    addValue false path key value longer) header root

end EditorBridge.Toml
