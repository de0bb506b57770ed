import EditorBridge.ClientCommand

/-!
Messages of a language server. A message is a call with an identifier or a notification without one;
a notification that asks to run a command is dispatched to that command. A record may be written as
an object or as a list of its fields.
-/

namespace EditorBridge

open Json (Value)

inductive CallId where
  | null
  | number (n : Nat)
  | string (s : String)
  deriving DecidableEq, Repr

def CallId.describe : CallId → String
  | .null => "Null"
  | .number n => "Num(" ++ String.ofList (Nat.toDigits 10 n) ++ ")"
  | .string s => "Str(" ++ Text.quoted s ++ ")"

def CallId.ofValue? : Value → Option CallId
  | .null => some .null
  | .number (.integer n) => if 0 ≤ n then some (.number n.toNat) else none
  | .string s => some (.string s)
  | _ => none

structure Notification where
  method : String
  /-- The parameters in their settled form; `null` if there are none. -/
  params : Value

inductive Message where
  | request (method : String) (id : CallId)
  | notification (n : Notification)
  /-- An object that is neither. -/
  | invalid (id : CallId)

namespace Message

/-- The one value of a name, `none` within if the name is missing; nothing if it is repeated. -/
def only? (name : String) (members : List (String × Value)) : Option (Option Value) :=
  match members.filter fun member => member.1 = name with
  | [] => some none
  | [(_, value)] => some (some value)
  | _ => none

/-- Whether a value is a version of the protocol, or says nothing about it. -/
def isVersion : Value → Bool
  | .null => true
  | .string s => s = "2.0"
  | _ => false

/-- Parameters: a list, an object or `null`. -/
def params? : Value → Option Value
  | .null => some .null
  | .array items => some (Value.array items).settled
  | .object members => some (Value.object members).settled
  | _ => none

def notification? (version method params : Value) : Option Notification :=
  match method, params? params with
  | .string method, some params => if isVersion version then some ⟨method, params⟩ else none
  | _, _ => none

/-- The fields of a message, by whether it has an identifier. -/
def fields (hasId : Bool) : List String :=
  ["jsonrpc", "method", "params"] ++ (if hasId then ["id"] else [])

def inMembers? (hasId : Bool) (members : List (String × Value)) : Option Notification := do
  if members.any fun member => !(fields hasId).contains member.1 then none
  let version ← only? "jsonrpc" members
  let method ← only? "method" members
  let params ← only? "params" members
  notification? (version.getD .null) (← method) (params.getD .null)

def request? (members : List (String × Value)) : Option Message := do
  let call ← inMembers? true members
  let id ← only? "id" members
  return .request call.method (← CallId.ofValue? (← id))

def ofMembers? (members : List (String × Value)) : Option Message :=
  match request? members, inMembers? false members with
  | some r, _ => some r
  | none, some n => some (.notification n)
  | none, none =>
    (only? "id" members).bind fun id =>
      (CallId.ofValue? (id.getD .null)).map .invalid

def ofItems? : List Value → Option Message
  | [version, method] => (notification? version method .null).map .notification
  | [version, method, params] => (notification? version method params).map .notification
  | [version, method, params, id] => do
    let call ← notification? version method params
    return .request call.method (← CallId.ofValue? id)
  | _ => none

def ofValue? : Value → Option Message
  | .object members => ofMembers? members
  | .array items => ofItems? items
  | _ => none

def read : Json.Reader Message := fun depth s =>
  match Json.value depth s with
  | .error fault => .error fault
  | .ok (value, rest) =>
    match ofValue? value with
    | some message => .ok (message, rest)
    | none =>
      Json.complain (.malformed "data did not match any variant of untagged enum Call") rest

end Message

namespace Notification

/-- Reads a text that has to be a notification; otherwise says what is wrong. -/
def parse (text : String) : Except String Notification :=
  match Json.parseWith Message.read text with
  | .ok (.notification n) => .ok n
  | .ok (.request method id) =>
    .error ("Expected a notification, got request " ++ method ++ " " ++ id.describe)
  | .ok (.invalid id) => .error ("Invalid call from language server: " ++ id.describe)
  | .error e => .error ("Failed to parse language server message: " ++ e.message)

def executeClientCommand : String := "metals/executeClientCommand"

/-- Does what a notification asks for; methods other than `executeClientCommand` are ignored. -/
def dispatch (n : Notification) : Response :=
  if n.method = executeClientCommand then ClientCommand.execute n.params
  else .warn ("Unsupported method from language server: " ++ n.method)

end Notification

end EditorBridge
