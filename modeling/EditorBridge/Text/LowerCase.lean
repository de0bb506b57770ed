import EditorBridge.Text.CaseContextRanges
import EditorBridge.Text.LowerCaseRuns
import EditorBridge.Text.Ranges

/-!
Lower case of a text. A character may become two (the dotted capital I), and a capital sigma becomes
the final form at the end of a word.
-/

namespace EditorBridge.Text

/-- The lower case of one character, out of context. -/
def lowerChar (c : Char) : List Char :=
  if c.toNat = 0x130 then ['i', Char.ofNat 0x307]
  else match imageInRuns c.toNat lowerCaseRuns with
    | some n => [Char.ofNat n]
    | none => [c]

/-- Whether the first character that is not looked through has case. -/
def beginsCased (s : List Char) : Bool :=
  match s.dropWhile (fun c => inRanges c.toNat caseIgnorableRanges) with
  | [] => false
  | c :: _ => inRanges c.toNat casedRanges

/-- The lower case of a text whose preceding characters are `before`, the nearest first. A capital
sigma is final where a cased character precedes it and none follows. -/
def lowerAfter (before : List Char) : List Char → List Char
  | [] => []
  | c :: rest =>
    (if c = 'Σ' then
      if beginsCased before && !beginsCased rest then ['ς'] else ['σ']
    else lowerChar c) ++ lowerAfter (c :: before) rest

def lower (s : List Char) : List Char := lowerAfter [] s

end EditorBridge.Text
