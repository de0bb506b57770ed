/-!
Lines of a text. A line ends at a line feed or at the end of the text; a carriage return right
before its line feed is no part of it. A text that ends with a line feed has no empty line after it.
-/

namespace EditorBridge.Text

/-- Cuts a text at each line feed. The last piece is what follows the last line feed. -/
def splitLineFeeds : List Char → List (List Char)
  | [] => [[]]
  | c :: rest =>
    if c = '\n' then [] :: splitLineFeeds rest
    else match splitLineFeeds rest with
      | [] => [[c]]
      | piece :: pieces => (c :: piece) :: pieces

def dropReturn (line : List Char) : List Char :=
  if line.getLast? = some '\r' then line.dropLast else line

/-- The pieces that end with a line feed lose their carriage return; the piece after the last line
feed counts only if something is in it. -/
def linesOfPieces : List (List Char) → List (List Char)
  | [] => []
  | [last] => if last.isEmpty then [] else [last]
  | piece :: pieces => dropReturn piece :: linesOfPieces pieces

def lines (s : List Char) : List (List Char) := linesOfPieces (splitLineFeeds s)

def joinWith (separator : List Char) (parts : List (List Char)) : List Char :=
  separator.intercalate parts

end EditorBridge.Text
