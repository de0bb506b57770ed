/-!
Replacing every occurrence of one text by another. The occurrences are found from left to right and
do not overlap; what takes their place is not searched again.
-/

namespace EditorBridge.Text

/-- Replaces the occurrences of `old` behind the first `skipped` characters, which are left out. -/
def replaceFrom (old new : List Char) : (skipped : Nat) → List Char → List Char
  | _, [] => []
  | skipped + 1, _ :: rest => replaceFrom old new skipped rest
  | 0, c :: rest =>
    if old.isPrefixOf (c :: rest) then new ++ replaceFrom old new (old.length - 1) rest
    else c :: replaceFrom old new 0 rest

/-- Replaces the occurrences of `old`, which is not empty, by `new`. -/
def replaceAll (old new s : List Char) : List Char := replaceFrom old new 0 s

end EditorBridge.Text
