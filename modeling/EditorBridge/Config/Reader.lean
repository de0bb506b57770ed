import EditorBridge.Config
import EditorBridge.FileTree
import EditorBridge.Toml.Error
import EditorBridge.Toml.Reader

/-!
Configuration files. A section may be a table or a list of its values in their order; names that
have no meaning are ignored.
-/

namespace EditorBridge.Config

open Toml (Fault Node)

inductive LoadError where
  /-- The file cannot be read, for a reason in words. -/
  | unreadable (path reason : String)
  /-- The text is no TOML document. -/
  | malformed
  /-- A value does not fit, as an excerpt shows. -/
  | unsuitable (excerpt : String)
  deriving DecidableEq, Repr

def LoadError.message : LoadError → String
  | unreadable path reason => "Failed to read config " ++ path ++ ": " ++ reason
  | malformed => "Failed to parse config file: not a TOML document"
  | unsuitable excerpt => "Failed to parse config file: " ++ excerpt

def readText (expected : String) : Node → Except Fault String
  | .string _ s => .ok s
  | node => .error (.wrongType node expected)

def readByte : Node → Except Fault Nat
  | .integer span n =>
    if 0 ≤ n && n < 256 then .ok n.toNat else .error (.wrongValue (.integer span n) "u8")
  | node => .error (.wrongType node "u8")

def displayOf (name : String) (span : Option Toml.Span) : Except Fault Display :=
  if name = "buffer" then .ok .buffer
  else if name = "info" then .ok .info
  else .error ⟨"unknown variant \x60" ++ name ++
    "\x60, expected \x60buffer\x60 or \x60info\x60", span⟩

def requireEmpty : Node → Except Fault Unit
  | .table _ span entries =>
    if entries.isEmpty then .ok () else .error ⟨"expected empty table", span⟩
  | .array span items =>
    if items.isEmpty then .ok () else .error ⟨"expected empty table", some span⟩
  | .tables items =>
    if items.isEmpty then .ok () else .error ⟨"expected empty array", (Node.tables items).span?⟩
  | node => .error ⟨"expected table, found " ++ node.kindName, node.span?⟩

/-- Reads the way to show reports: its name, or a table with nothing but an empty table under that
name. -/
def readDisplay : Node → Except Fault Display
  | .string span name => displayOf name (some span)
  | .table _ span [(key, value)] =>
    match displayOf key.name (some key.span) with
    | .error fault => .error fault
    | .ok display =>
      match requireEmpty value with
      | .error fault => .error (fault.within span)
      | .ok () => .ok display
  | .table _ span [] => .error ⟨"wanted exactly 1 element, found 0 elements", span⟩
  | .table _ span _ => .error ⟨"wanted exactly 1 element, more than 1 element", span⟩
  | node => .error ⟨"wanted string or table", node.span?⟩

/-- Takes a value into a configuration. -/
abbrev Field := Node → Config → Except Fault Config

def fieldOf {α : Type} (read : Node → Except Fault α) (put : α → Config → Config) : Field :=
  fun node config => (read node).map fun value => put value config

/-- Takes the values of a table by their names. -/
def takeEntries (fields : List (String × Field)) :
    List (Toml.Key × Node) → Config → Except Fault Config
  | [], config => .ok config
  | (key, node) :: rest, config =>
    match fields.lookup key.name with
    | none => takeEntries fields rest config
    | some field =>
      match field node config with
      | .error fault => .error (fault.within (node.span?.or (some key.span)))
      | .ok config => takeEntries fields rest config

/-- Takes the values of a list in the order of the fields. -/
def takeItems : List (String × Field) → List Node → Config → Except Fault Config
  | (_, field) :: fields, node :: rest, config =>
    match field node config with
    | .error fault => .error fault
    | .ok config => takeItems fields rest config
  | _, _, config => .ok config

def sectionOf (name : String) (fields : List (String × Field)) : Field := fun node config =>
  match node with
  | .table _ _ entries => takeEntries fields entries config
  | .array _ items => takeItems fields items config
  | .tables items => takeItems fields items config
  | .dateTime _ => .ok config
  | node => .error (.wrongType node ("struct " ++ name))

def editorFields : List (String × Field) :=
  [("jump_client", fieldOf (readText "a string") fun s c => { c with jumpClient := s }),
    ("tools_client", fieldOf (readText "a string") fun s c => { c with toolsClient := s })]

def reportFields : List (String × Field) :=
  [("display", fieldOf readDisplay fun d c => { c with display := d }),
    ("filetype", fieldOf (readText "a string") fun s c => { c with filetype := s }),
    ("html_dir", fieldOf (readText "path string") fun s c => { c with htmlDir := some s })]

def fields : List (String × Field) :=
  [("verbosity", fieldOf readByte fun n c => { c with verbosity := n }),
    ("editor", sectionOf "EditorConfig" editorFields),
    ("report", sectionOf "ReportConfig" reportFields)]

def parse (text : String) : Except LoadError Config :=
  match Toml.parse? text with
  | none => .error .malformed
  | some document =>
    match sectionOf "Config" fields document {} with
    | .ok config => .ok config
    | .error fault =>
      let span := fault.span.getD ⟨text.length, text.length⟩
      .error (.unsuitable (Toml.excerpt text.toList span fault.message))

/-- The configuration of the file at a path, or the built-in one without a path. -/
def load (files : FileTree) : Option String → Except LoadError Config
  | none => .ok .builtIn
  | some path =>
    match files.read path with
    | .ok text => parse text
    | .error cause => .error (.unreadable path cause.message)

end EditorBridge.Config
