/-!
Words of an editor script. A word between single quotes may hold anything; a single quote inside it
is written twice.
-/

namespace EditorBridge.Script

/-- A character inside a quoted word: a single quote is written twice, all else once. -/
def escapeChar (c : Char) : List Char := if c = '\x27' then ['\x27', '\x27'] else [c]

def escape (s : String) : String := String.ofList (s.toList.flatMap escapeChar)

def quote (s : String) : String :=
  String.ofList ('\x27' :: s.toList.flatMap escapeChar ++ ['\x27'])

@[simp] theorem toList_escape (s : String) :
    (escape s).toList = s.toList.flatMap escapeChar := by simp [escape]

@[simp] theorem toList_quote (s : String) :
    (quote s).toList = '\x27' :: s.toList.flatMap escapeChar ++ ['\x27'] := by simp [quote]

end EditorBridge.Script
