import EditorBridge.Html.Body
import EditorBridge.Markdown.Document

/-!
Standalone pages. A page shows one document inside a `div` whose class its style rules name.
-/

namespace EditorBridge.Html

/-- The style rules of a page, and the class of the element that they apply to. -/
structure Style where
  wrapperClass : String
  css : String
  deriving DecidableEq, Repr

def pageOf (title : List Char) (style : Style) (body : List Char) : List Char :=
  "<!DOCTYPE html>\n<html>\n<head>\n<meta charset=\x22utf-8\x22>\n<title>".toList ++
    escape title ++ "</title>\n<style>".toList ++ style.css.toList ++
    "</style>\n</head>\n<body>\n<div class=\x22".toList ++ escape style.wrapperClass.toList ++
    "\x22>\n".toList ++ body ++ "</div>\n</body>\n</html>\n".toList

def page (title markdown : String) (style : Style) : String :=
  String.ofList (pageOf title.toList style (ofNodes (Markdown.parse markdown)))

end EditorBridge.Html
