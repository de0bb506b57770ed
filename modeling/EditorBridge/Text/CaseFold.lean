import EditorBridge.Text.CaseFoldRuns
import EditorBridge.Text.Ranges

/-!
Case folding: two texts that differ only in case fold to the same text.
-/

namespace EditorBridge.Text

def foldChar (c : Char) : List Char :=
  match caseFoldExpansions.lookup c.toNat with
  | some ns => ns.map Char.ofNat
  | none => [Char.ofNat ((imageInRuns c.toNat caseFoldRuns).getD c.toNat)]

def foldCase (s : List Char) : List Char := s.flatMap foldChar

end EditorBridge.Text
