import EditorBridge.Text.Ranges
import EditorBridge.Text.AlphanumericRanges

/-!
Letters and numbers of every script.
-/

namespace EditorBridge.Text

def isAlphanumeric (c : Char) : Bool := inRanges c.toNat alphanumericRanges

end EditorBridge.Text
