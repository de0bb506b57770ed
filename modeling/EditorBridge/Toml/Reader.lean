import EditorBridge.Toml.Scalar

/-!
Reading TOML. A document is lines of values under headers; any fault makes it no document at all.
-/

namespace EditorBridge.Toml

/-- Past white space, line ends and comments. -/
def skipBlank (inComment : Bool) : List Char → List Char
  | [] => []
  | '\n' :: rest => skipBlank false rest
  | '\r' :: '\n' :: rest => skipBlank false rest
  | c :: rest =>
    if inComment then if isPlain c then skipBlank true rest else c :: rest
    else if isSpace c then skipBlank false rest
    else if c = '#' then skipBlank true rest
    else c :: rest

/-- Past what may stand in a line behind a value or a header. -/
def skipLineRest? (s : List Char) : Option (List Char) :=
  match skipComment (skipSpace s) with
  | [] => some []
  | rest => lineEnd? rest

def number? (s : List Char) : Scan Node :=
  let span := fun (rest : List Char) => Span.mk s.length rest.length
  match dateTime? s with
  | some rest => some (.dateTime (span rest), rest)
  | none =>
    match fraction? s with
    | some (x, rest) => some (.fraction (span rest) x, rest)
    | none => (integer? s).map fun (n, rest) => (.integer (span rest) n, rest)

/-- A value that holds no others, apart from strings. -/
def plain? (s : List Char) : Scan Node :=
  match s with
  | [] => none
  | c :: _ =>
    let word := fun (text : String) (value : Span → Node) =>
      let count := text.length
      if text.toList.isPrefixOf s then
        some (value ⟨s.length, s.length - count⟩, s.drop count)
      else none
    if isDigit c || c = '+' || c = '-' then number? s
    else if c = 't' then word "true" (.boolean · true)
    else if c = 'f' then word "false" (.boolean · false)
    else if c = 'i' then word "inf" (.fraction · (.infinite false))
    else if c = 'n' then word "nan" (.fraction · .nan)
    else none

mutual

def value? : Nat → Nat → List Char → Scan Node
  | 0, _, _ => none
  | _ + 1, _, [] => none
  | n + 1, depth, c :: rest =>
    let length := rest.length + 1
    if c = '\x22' || c = '\x27' then
      (stringRest c rest).map fun (text, after) =>
        (.string ⟨length, after.length⟩ (String.ofList text), after)
    else if c = '[' then
      if depthLimit ≤ depth + 1 then none
      else (items? n (depth + 1) rest).map fun (items, after) =>
        (.array ⟨length, after.length⟩ items, after)
    else if c = '\x7b' then
      if depthLimit ≤ depth + 1 then none
      else
        let empty : Node := .table inlineForm (some ⟨length, 0⟩) []
        let found := match skipSpace rest with
          | '\x7d' :: after => some (empty, after)
          | inside => entries? n (depth + 1) empty inside
        match found with
        | some (.table form _ entries, after) =>
          some (.table form (some ⟨length, after.length⟩) entries, after)
        | _ => none
    else plain? (c :: rest)

def items? : Nat → Nat → List Char → Scan (List Node)
  | 0, _, _ => none
  | n + 1, depth, s =>
    match skipBlank false s with
    | ']' :: rest => some ([], rest)
    | inside =>
      match value? n depth inside with
      | none => none
      | some (item, rest) =>
        match skipBlank false rest with
        | ',' :: rest => (items? n depth rest).map fun found => (item :: found.1, found.2)
        | ']' :: rest => some ([item], rest)
        | _ => none

/-- The values of a table between braces, up to its end. -/
def entries? : Nat → Nat → Node → List Char → Scan Node
  | 0, _, _, _ => none
  | n + 1, depth, table, s =>
    match path? s with
    | some ((path, key), '=' :: rest) =>
      match value? n depth (skipSpace rest) with
      | none => none
      | some (value, rest) =>
        match addValue true path key value table with
        | none => none
        | some table =>
          match skipSpace rest with
          | ',' :: rest => entries? n depth table rest
          | '\x7d' :: rest => some (table, rest)
          | _ => none
    | _ => none

end

/-- Past a header: the path and the key of its table, and whether it may be repeated. -/
def header? (s : List Char) : Scan (Bool × List Key × Key) :=
  match s with
  | '[' :: '[' :: rest =>
    match path? rest with
    | some ((path, key), ']' :: ']' :: rest) => some ((true, path, key), rest)
    | _ => none
  | '[' :: rest =>
    match path? rest with
    | some ((path, key), ']' :: rest) => some ((false, path, key), rest)
    | _ => none
  | _ => none

/-- Adds what the lines of a text say, starting under a header. -/
def addLines : Nat → List Key → Node → List Char → Option Node
  | 0, _, _, _ => none
  | n + 1, header, root, s =>
    match skipBlank false s with
    | [] => some root
    | '[' :: inside =>
      match header? ('[' :: inside) with
      | none => none
      | some ((isRepeated, path, key), rest) =>
        let span := Span.mk (inside.length + 1) rest.length
        let added := if isRepeated then addRepeated path key span root
          else addTable path key span root
        match added, skipLineRest? rest with
        | some root, some rest => addLines n (path ++ [key]) root rest
        | _, _ => none
    | line =>
      match path? line with
      | some ((path, key), '=' :: rest) =>
        let inside := skipSpace rest
        match value? (inside.length + 1) 0 inside with
        | none => none
        | some (value, rest) =>
          match addUnder header path key value root, skipLineRest? rest with
          | some root, some rest => addLines n header root rest
          | _, _ => none
      | _ => none

/-- The table that a text is, if it is a document. A byte order mark may stand in front. -/
def parse? (text : String) : Option Node :=
  let s := match text.toList with
    | '\uFEFF' :: rest => rest
    | s => s
  addLines (s.length + 1) [] (.table headedForm none []) s

end EditorBridge.Toml
