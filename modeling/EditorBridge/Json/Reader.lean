import EditorBridge.Json.Token

/-!
Readers of JSON text. A reader takes the text from some place on, as deep inside lists and objects
as its first argument still allows, and gives what it has read and the text behind it.

A record is read from an object, whose members may come in any order, or from a list of its fields.
Members with other names are skipped. The first thing that is wrong ends the reading.
-/

namespace EditorBridge.Json

/-- A reader; the first argument is the number of levels of lists and objects that are left. -/
abbrev Reader (α : Type) := Nat → List Char → Result α

/-- The levels of lists and objects that a text may have, and one more. -/
def depthLimit : Nat := 128

def listEnd (s : List Char) : Except Fault (List Char) :=
  match skipSpace s with
  | [] => failPast .endInList []
  | c :: rest =>
    if c = ']' then .ok rest
    else if c = ',' then
      let after := skipSpace rest
      if after.head? = some ']' then failPast .trailingComma after
      else failPast .trailingCharacters after
    else failPast .trailingCharacters (c :: rest)

def objectEnd (s : List Char) : Except Fault (List Char) :=
  match skipSpace s with
  | [] => failPast .endInObject []
  | c :: rest =>
    if c = '\x7d' then .ok rest
    else if c = ',' then failPast .trailingComma (c :: rest)
    else failPast .trailingCharacters (c :: rest)

/-- How far the search for the end of a list or an object goes. -/
def searched (finish : List Char → Except Fault (List Char)) (s : List Char) : List Char :=
  match finish s with
  | .ok rest => rest
  | .error fault => fault.place

/-- Goes on to the end of a list or an object. A fault that is not settled gets the place that has
been reached by then. -/
def closeWith {α : Type} (finish : List Char → Except Fault (List Char)) (result : Result α) :
    Result α :=
  match result with
  | .ok (a, s) => (finish s).map fun rest => (a, rest)
  | .error fault =>
    if fault.isSettled then .error fault
    else .error { fault with place := searched finish fault.place, isSettled := true }

/-- Whether a list has another item, of which `isFirst` tells whether it is the first one; the text
from that item on, if there is one. -/
def nextItem (isFirst : Bool) (s : List Char) : Except Fault (Option (List Char) × List Char) :=
  match skipSpace s with
  | [] => failPast .endInList []
  | c :: rest =>
    if c = ']' then .ok (none, c :: rest)
    else if isFirst then .ok (some (c :: rest), c :: rest)
    else if c = ',' then
      match skipSpace rest with
      | [] => failPast .endInValue []
      | d :: after =>
        if d = ']' then failPast .trailingComma (d :: after)
        else .ok (some (d :: after), d :: after)
    else failPast .expectedListEnd (c :: rest)

def nextName (isFirst : Bool) (s : List Char) : Result (Option String) :=
  let name := fun (s : List Char) =>
    match s with
    | '\x22' :: rest => (string rest).map fun found => (some found.1, found.2)
    | _ => failPast .keyNotString s
  match skipSpace s with
  | [] => failPast .endInObject []
  | c :: rest =>
    if c = '\x7d' then .ok (none, c :: rest)
    else if isFirst then name (c :: rest)
    else if c = ',' then
      match skipSpace rest with
      | [] => failPast .endInValue []
      | d :: after =>
        if d = '\x7d' then failPast .trailingComma (d :: after) else name (d :: after)
    else failPast .expectedObjectEnd (c :: rest)

def colon (s : List Char) : Except Fault (List Char) :=
  match skipSpace s with
  | [] => failPast .endInObject []
  | c :: rest => if c = ':' then .ok rest else failPast .expectedColon (c :: rest)

/-- Enters a list or an object, unless it is too deep. -/
def enter {α : Type} (depth : Nat) (s : List Char) (inside : Nat → Result α) : Result α :=
  if depth ≤ 1 then failPast .tooDeep s else inside (depth - 1)

def scalar (c : Char) (rest : List Char) : Result Value :=
  if c = 'n' then (word ['u', 'l', 'l'] rest).map fun s => (.null, s)
  else if c = 't' then (word ['r', 'u', 'e'] rest).map fun s => (.bool true, s)
  else if c = 'f' then (word ['a', 'l', 's', 'e'] rest).map fun s => (.bool false, s)
  else if c = '-' then (number true rest).map fun found => (.number found.1, found.2)
  else if isDigit c then (number false (c :: rest)).map fun found => (.number found.1, found.2)
  else if c = '\x22' then (string rest).map fun found => (.string found.1, found.2)
  else failPast .expectedValue (c :: rest)

mutual

/-- Reads a value, with a bound on the number of steps. -/
def valueWithin : Nat → Reader Value
  | 0, _, s => failPast .endInValue s
  | n + 1, depth, s =>
    match skipSpace s with
    | [] => failPast .endInValue []
    | c :: rest =>
      if c = '[' then
        enter depth (c :: rest) fun depth =>
          closeWith listEnd ((itemsWithin n true depth rest).map fun (items, s) =>
            (.array items, s))
      else if c = '\x7b' then
        enter depth (c :: rest) fun depth =>
          closeWith objectEnd ((membersWithin n true depth rest).map fun (members, s) =>
            (.object members, s))
      else scalar c rest

def itemsWithin : Nat → (isFirst : Bool) → Reader (List Value)
  | 0, _, _, s => failPast .endInList s
  | n + 1, isFirst, depth, s =>
    match nextItem isFirst s with
    | .error fault => .error fault
    | .ok (none, s) => .ok ([], s)
    | .ok (some s, _) =>
      match valueWithin n depth s with
      | .error fault => .error fault
      | .ok (item, s) => (itemsWithin n false depth s).map fun (items, s) => (item :: items, s)

def membersWithin : Nat → (isFirst : Bool) → Reader (List (String × Value))
  | 0, _, _, s => failPast .endInObject s
  | n + 1, isFirst, depth, s =>
    match nextName isFirst s with
    | .error fault => .error fault
    | .ok (none, s) => .ok ([], s)
    | .ok (some name, s) =>
      match colon s with
      | .error fault => .error fault
      | .ok s =>
        match valueWithin n depth s with
        | .error fault => .error fault
        | .ok (value, s) =>
          (membersWithin n false depth s).map fun (members, s) => ((name, value) :: members, s)

end

/-- Reads a value. Objects keep their members as they are written. -/
def value : Reader Value := fun depth s => valueWithin (2 * s.length + 2) depth s

/-- Past values and what closes the lists and objects around them, with a bound on the number of
steps. `around` holds the opening brackets, the innermost first. `isBegun` tells whether the
innermost list or object has a value yet. -/
def skipWithin : Nat → (around : List Char) → (isBegun : Bool) → List Char →
    Except Fault (List Char)
  | 0, _, _, s => failPast .endInValue s
  | n + 1, [], _, s => skipValueWithin n [] s
  | n + 1, bracket :: outer, isBegun, s =>
    let isList := bracket = '['
    match skipSpace s with
    | [] => failPast (if isList then .endInList else .endInObject) []
    | c :: rest =>
      if c = (if isList then ']' else '\x7d') then
        if outer.isEmpty then .ok rest else skipWithin n outer true rest
      else if isBegun && c != ',' then
        failPast (if isList then .expectedListEnd else .expectedObjectEnd) (c :: rest)
      else
        let s := if isBegun then rest else c :: rest
        if isList then skipValueWithin n (bracket :: outer) s
        else match skipSpace s with
          | [] => failPast .endInObject []
          | d :: after =>
            if d != '\x22' then failPast .keyNotString (d :: after)
            else match (skipString after).bind colon with
              | .error fault => .error fault
              | .ok s => skipValueWithin n (bracket :: outer) s
where
  /-- Past a value inside the open lists and objects. -/
  skipValueWithin : Nat → (around : List Char) → List Char → Except Fault (List Char)
    | 0, _, s => failPast .endInValue s
    | n + 1, around, s =>
      match skipSpace s with
      | [] => failPast .endInValue []
      | c :: rest =>
        if c = '[' || c = '\x7b' then skipWithin n (c :: around) false rest
        else
          let after :=
            if c = 'n' then word ['u', 'l', 'l'] rest
            else if c = 't' then word ['r', 'u', 'e'] rest
            else if c = 'f' then word ['a', 'l', 's', 'e'] rest
            else if c = '-' then skipNumber rest
            else if isDigit c then skipNumber (c :: rest)
            else if c = '\x22' then skipString rest
            else failPast .expectedValue (c :: rest)
          match after with
          | .error fault => .error fault
          | .ok s => if around.isEmpty then .ok s else skipWithin n around true s

def skipValue (s : List Char) : Except Fault (List Char) :=
  skipWithin (4 * s.length + 4) [] false s

def wrongType {α : Type} (expected : String) (s : List Char) : Except Fault α :=
  match s with
  | [] => failPast .endInValue []
  | c :: rest =>
    if c = '[' then failAt (.wrongType .array expected) s
    else if c = '\x7b' then failAt (.wrongType .object expected) s
    else match scalar c rest with
      | .ok (found, after) => failAt (.wrongType found.found expected) after
      | .error fault => .error fault

def readString : Reader String := fun _ s =>
  match skipSpace s with
  | '\x22' :: rest => string rest
  | s => wrongType "a string" s

def readOption {α : Type} (read : Reader α) : Reader (Option α) := fun depth s =>
  match skipSpace s with
  | 'n' :: rest => (word ['u', 'l', 'l'] rest).map fun s => (none, s)
  | s => (read depth s).map fun (a, s) => (some a, s)

def readItems {α : Type} (read : Reader α) : Nat → (isFirst : Bool) → Reader (List α)
  | 0, _, _, s => failPast .endInList s
  | n + 1, isFirst, depth, s =>
    match nextItem isFirst s with
    | .error fault => .error fault
    | .ok (none, s) => .ok ([], s)
    | .ok (some s, _) =>
      match read depth s with
      | .error fault => .error fault
      | .ok (item, s) =>
        (readItems read n false depth s).map fun (items, s) => (item :: items, s)

def readList {α : Type} (read : Reader α) : Reader (List α) := fun depth s =>
  match skipSpace s with
  | '[' :: rest =>
    enter depth ('[' :: rest) fun depth =>
      closeWith listEnd (readItems read (rest.length + 1) true depth rest)
  | s => wrongType "a sequence" s

/-- A field of a record: its name, and how its value is read and put into the record. -/
structure Field (σ : Type) where
  name : String
  read : σ → Reader σ

/-- A field whose value may be missing or `null`. -/
def Field.optional {σ α : Type} (name : String) (read : Reader α) (put : Option α → σ → σ) :
    Field σ :=
  ⟨name, fun record depth s => (readOption read depth s).map fun (a, s) => (put a record, s)⟩

structure Record (σ : Type) where
  name : String
  fields : List (Field σ)
  /-- The record of which no field is known. -/
  empty : σ

namespace Record

variable {σ : Type}

def expected (r : Record σ) : String := "struct " ++ r.name

/-- What a list of too few fields should be. -/
def expectedLength (r : Record σ) : String :=
  r.expected ++ " with " ++ String.ofList (Nat.toDigits 10 r.fields.length) ++
    (if r.fields.length = 1 then " element" else " elements")

/-- Reads the members of an object, with a bound on their number. `seen` holds the fields that have
been read. -/
def readMembers (r : Record σ) : Nat → (isFirst : Bool) → (seen : List String) → σ → Reader σ
  | 0, _, _, _, _, s => failPast .endInObject s
  | n + 1, isFirst, seen, record, depth, s =>
    match nextName isFirst s with
    | .error fault => .error fault
    | .ok (none, s) => .ok (record, s)
    | .ok (some name, s) =>
      match r.fields.find? fun field => field.name = name with
      | none =>
        match (colon s).bind skipValue with
        | .error fault => .error fault
        | .ok s => readMembers r n false seen record depth s
      | some field =>
        if seen.contains name then complain (.repeatedField name) s
        else match (colon s).bind (field.read record depth) with
          | .error fault => .error fault
          | .ok (record, s) => readMembers r n false (name :: seen) record depth s

def readFields (r : Record σ) (isFirst : Bool) (record : σ) (depth : Nat) (s : List Char) :
    List (Field σ) → Result σ
  | [] => .ok (record, s)
  | field :: fields =>
    match nextItem isFirst s with
    | .error fault => .error fault
    | .ok (none, s) =>
      complain (.wrongLength (r.fields.length - (fields.length + 1)) r.expectedLength) s
    | .ok (some s, _) =>
      match field.read record depth s with
      | .error fault => .error fault
      | .ok (record, s) => readFields r false record depth s fields

def read (r : Record σ) : Reader σ := fun depth s =>
  match skipSpace s with
  | '\x7b' :: rest =>
    enter depth ('\x7b' :: rest) fun depth =>
      closeWith objectEnd (r.readMembers (rest.length + 1) true [] r.empty depth rest)
  | '[' :: rest =>
    enter depth ('[' :: rest) fun depth =>
      closeWith listEnd (r.readFields true r.empty depth rest r.fields)
  | s => wrongType r.expected s

end Record

/-- Reads a whole text, of which nothing but white space may be left. -/
def parseWith {α : Type} (read : Reader α) (text : String) : Except ReadError α :=
  let s := text.toList
  match read depthLimit s with
  | .error fault => .error (fault.error s)
  | .ok (a, rest) =>
    let rest := skipSpace rest
    if rest.isEmpty then .ok a
    else .error ((⟨.trailingCharacters, rest, 1, true⟩ : Fault).error s)

def parse (text : String) : Except ReadError Value := parseWith value text

end EditorBridge.Json
