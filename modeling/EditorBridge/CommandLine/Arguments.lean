/-!
The arguments of the command line. They are read from left to right; a setting takes its value from
the same argument or from the next one, and its faults are found when the next known argument or the
end has been reached.
-/

namespace EditorBridge.CommandLine

inductive Setting where
  | config
  | session
  | client
  | htmlDir
  | log
  deriving DecidableEq, Repr

namespace Setting

def name : Setting → String
  | config => "config"
  | session => "session"
  | client => "client"
  | htmlDir => "html-dir"
  | log => "log"

def letter? : Setting → Option Char
  | config => some 'c'
  | session => some 's'
  | _ => none

def valueName : Setting → String
  | config => "FILE"
  | session => "SESSION"
  | client => "CLIENT"
  | htmlDir => "DIR"
  | log => "PATH"

def isFilled : Setting → Bool
  | config | htmlDir => true
  | _ => false

def usage (s : Setting) : String := "--" ++ s.name ++ " <" ++ s.valueName ++ ">"

end Setting

def settings : List Setting := [.config, .session, .client, .htmlDir, .log]

structure Arguments where
  config : Option String := none
  session : Option String := none
  client : Option String := none
  htmlDir : Option String := none
  log : Option String := none
  /-- The number of flags that ask for a longer log, of which up to 255 count. -/
  verbosity : Nat := 0
  deriving DecidableEq, Repr

namespace Arguments

def get? (a : Arguments) : Setting → Option String
  | .config => a.config
  | .session => a.session
  | .client => a.client
  | .htmlDir => a.htmlDir
  | .log => a.log

def put (a : Arguments) (value : String) : Setting → Arguments
  | .config => { a with config := some value }
  | .session => { a with session := some value }
  | .client => { a with client := some value }
  | .htmlDir => { a with htmlDir := some value }
  | .log => { a with log := some value }

/-- Counts a flag that asks for a longer log. -/
def countVerbose (a : Arguments) : Arguments :=
  { a with verbosity := Nat.min 255 (a.verbosity + 1) }

end Arguments

inductive Request where
  | run (arguments : Arguments)
  | help (isLong : Bool)
  | version
  deriving DecidableEq, Repr

inductive UsageError where
  | unexpected (argument : String)
  | missingValue (setting : Setting)
  | repeated (setting : Setting)
  | needlessValue (value argument : String)
  deriving DecidableEq, Repr

def UsageError.message : UsageError → String
  | unexpected argument => "error: unexpected argument '" ++ argument ++ "' found"
  | missingValue setting =>
    "error: a value is required for '" ++ setting.usage ++ "' but none was supplied"
  | repeated setting =>
    "error: the argument '" ++ setting.usage ++ "' cannot be used multiple times"
  | needlessValue value argument =>
    "error: unexpected value '" ++ value ++ "' for '" ++ argument ++
      "' found; no more were expected"

/-- The reading is over before the last argument. -/
inductive Stop where
  | fault (e : UsageError)
  | answer (request : Request)

/-- What has been read so far. A setting without faults so far may wait for its value or for the
next argument. -/
structure Progress where
  arguments : Arguments := {}
  pending : Option (Setting × Option String) := none

def settle (a : Arguments) (setting : Setting) (value : String) : Except Stop Arguments :=
  if (a.get? setting).isSome then .error (.fault (.repeated setting))
  else if setting.isFilled && value = "" then .error (.fault (.missingValue setting))
  else .ok (a.put value setting)

namespace Progress

def resolve (p : Progress) : Except Stop Arguments :=
  match p.pending with
  | none => .ok p.arguments
  | some (setting, none) => .error (.fault (.missingValue setting))
  | some (setting, some value) => settle p.arguments setting value

def takeSetting (p : Progress) (setting : Setting) (value : Option String) :
    Except Stop Progress :=
  match p.resolve with
  | .error stop => .error stop
  | .ok a =>
    match value with
    | none => .ok ⟨a, some (setting, none)⟩
    | some value => (settle a setting value).map fun a => ⟨a, none⟩

/-- Takes a flag that asks for an answer. -/
def takeRequest (p : Progress) (request : Request) : Except Stop Progress :=
  match p.resolve with
  | .error stop => .error stop
  | .ok _ => .error (.answer request)

/-- Takes letters behind one hyphen. The rest of the argument is the value of a setting. -/
def takeLetters (p : Progress) : List Char → Except Stop Progress
  | [] => .ok p
  | c :: rest =>
    if c = 'v' then
      match p.resolve with
      | .error stop => .error stop
      | .ok a => takeLetters ⟨a.countVerbose, none⟩ rest
    else if c = 'h' then p.takeRequest (.help false)
    else if c = 'V' then p.takeRequest .version
    else match settings.find? fun s => s.letter? = some c with
      | none => .error (.fault (.unexpected (String.ofList ['-', c])))
      | some setting =>
        match rest with
        | [] => p.takeSetting setting none
        | '=' :: value => p.takeSetting setting (some (String.ofList value))
        | value => p.takeSetting setting (some (String.ofList value))

def takeFlag (p : Progress) (name : String) (request : Request) (value : Option String) :
    Except Stop Progress :=
  match value with
  | some value => .error (.fault (.needlessValue value ("--" ++ name)))
  | none => p.takeRequest request

def takeName (p : Progress) (text : List Char) : Except Stop Progress :=
  let name := String.ofList (text.takeWhile (· != '='))
  let value := match text.dropWhile (· != '=') with
    | [] => none
    | _ :: value => some (String.ofList value)
  if name = "help" then p.takeFlag name (.help true) value
  else if name = "version" then p.takeFlag name .version value
  else match settings.find? fun s => s.name = name with
    | none => .error (.fault (.unexpected ("--" ++ name)))
    | some setting => p.takeSetting setting value

def takeValue (p : Progress) (argument : String) : Except Stop Progress :=
  match p.pending with
  | some (setting, none) => .ok ⟨p.arguments, some (setting, some argument)⟩
  | _ => .error (.fault (.unexpected argument))

/-- Takes arguments up to the end. Behind two hyphens alone, nothing may follow. -/
def takeAll (p : Progress) : List String → Except Stop Arguments
  | [] => p.resolve
  | argument :: rest =>
    match argument.toList with
    | ['-', '-'] =>
      match rest with
      | [] => p.resolve
      | next :: _ => .error (.fault (.unexpected next))
    | '-' :: '-' :: text =>
      match p.takeName text with
      | .error stop => .error stop
      | .ok p => takeAll p rest
    | '-' :: c :: text =>
      match p.takeLetters (c :: text) with
      | .error stop => .error stop
      | .ok p => takeAll p rest
    | _ =>
      match p.takeValue argument with
      | .error stop => .error stop
      | .ok p => takeAll p rest

end Progress

def Request.ofArguments (arguments : List String) : Except UsageError Request :=
  match Progress.takeAll {} arguments with
  | .ok a => .ok (.run a)
  | .error (.answer request) => .ok request
  | .error (.fault e) => .error e

end EditorBridge.CommandLine
