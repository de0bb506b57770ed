import EditorBridge.Decimal.Double

/-!
JSON values. As they are read, objects keep their members in order and with repetitions; in the
settled form of a value the members are sorted by their names, and of members with one name the last
one is kept.
-/

namespace EditorBridge.Json

/-- A number: an integer of at most 64 bits, or a double. -/
inductive Number where
  | integer (n : Int)
  | double (x : Decimal.Double)
  deriving DecidableEq, Repr

inductive Value where
  | null
  | bool (b : Bool)
  | number (n : Number)
  | string (s : String)
  | array (items : List Value)
  | object (members : List (String × Value))
  deriving Repr

/-- Puts a member into members that are sorted by name, in place of one with the same name. -/
def insertMember (name : String) (value : Value) : List (String × Value) → List (String × Value)
  | [] => [(name, value)]
  | (other, found) :: rest =>
    if name = other then (name, value) :: rest
    else if name < other then (name, value) :: (other, found) :: rest
    else (other, found) :: insertMember name value rest

/-- Members sorted by name, each name with its last value. -/
def sortMembers (members : List (String × Value)) : List (String × Value) :=
  members.foldl (fun sorted member => insertMember member.1 member.2 sorted) []

mutual

def Value.settled : Value → Value
  | .array items => .array (settledItems items)
  | .object members => .object (sortMembers (settledMembers members))
  | value => value

def settledItems : List Value → List Value
  | [] => []
  | item :: rest => item.settled :: settledItems rest

def settledMembers : List (String × Value) → List (String × Value)
  | [] => []
  | (name, value) :: rest => (name, value.settled) :: settledMembers rest

end

/-- The member of an object with a name, the first one if there are several. -/
def member? (name : String) (members : List (String × Value)) : Option Value :=
  members.lookup name

end EditorBridge.Json
