import EditorBridge.Text.Alphanumeric
import EditorBridge.Text.Lines
import EditorBridge.Text.LowerCase

/-!
File names for titles. A title becomes its groups of letters and digits, in lower case and joined by
hyphens.
-/

namespace EditorBridge.Text

/-- The maximal groups of letters and digits of a text, in order. -/
def alphanumericGroups : List Char → List (List Char)
  | [] => []
  | c :: rest =>
    if isAlphanumeric c then
      match rest with
      | [] => [[c]]
      | d :: _ =>
        if isAlphanumeric d then
          match alphanumericGroups rest with
          | [] => [[c]]
          | group :: groups => (c :: group) :: groups
        else [c] :: alphanumericGroups rest
    else alphanumericGroups rest

/-- The groups of a title in lower case and joined by hyphens, or `report` if it has none. -/
def slug (title : String) : String :=
  let joined := joinWith ['-'] ((alphanumericGroups title.toList).map lower)
  if joined.isEmpty then "report" else String.ofList joined

end EditorBridge.Text
