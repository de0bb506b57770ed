import EditorBridge.Text.Ranges
import EditorBridge.Text.WidthRanges

/-!
Terminal columns of a text. Most characters take none, one or two columns whatever stands beside
them; pictures joined into one, letters joined into a ligature and a return before its line feed
take fewer than their sum. What a character adds therefore depends on what follows it, and a text is
measured from its end.

A printable ASCII character adds one column and cuts what precedes it off from what follows, unless
the picture selector comes right after it.
-/

namespace EditorBridge.Text

/-- What the characters after some point begin with, as far as the width before it depends on it. -/
inductive Tail where
  /-- Nothing that combines with what precedes it. -/
  | plain
  | lineFeed
  /-- A complete picture. -/
  | picture
  | skinTone
  | regional
  | regionals
  /-- A joiner and the rest of a joined picture. -/
  | joined
  | joinedKeycap
  | joinedRegional
  | joinedRegionalsEven
  | joinedRegionalsOdd
  | arabicAlef
  | hebrewLamed
  | joinedHebrewLamed
  | khmerLetter
  | bugineseYa
  | joinedBugineseYa
  | bugineseVowelYa
  | tifinagh
  | joinedTifinagh
  | tifinaghJoiner
  | lisuTone
  | orkhonI
  | joinedOrkhonI
  /-- One Kirat Rai vowel sign E, which goes with an AA or another E before it. -/
  | kiratE
  /-- Two of them, or the sign AI that stands for two. -/
  | kiratAi
  deriving DecidableEq, Repr

/-- How a selector right after a character asks for it to be shown. -/
inductive Selector where
  | none | text | picture
  deriving DecidableEq, Repr

/-- All that the width of a character depends on besides itself. -/
structure WidthContext where
  tail : Tail
  selector : Selector
  deriving DecidableEq, Repr

namespace WidthContext

/-- The context at the end of a text, and before a character that combines with nothing. -/
def plain : WidthContext := ⟨.plain, .none⟩

/-- Contexts through which a ligature's default ignorable marks and joiners are looked. -/
def isLigature (c : WidthContext) : Bool :=
  match c.tail with
  | .hebrewLamed | .joinedHebrewLamed | .khmerLetter | .bugineseYa | .joinedBugineseYa
  | .bugineseVowelYa | .tifinagh | .joinedTifinagh | .tifinaghJoiner | .lisuTone | .orkhonI
  | .joinedOrkhonI | .kiratE | .kiratAi => true
  | _ => false

def join (c : WidthContext) : WidthContext :=
  { c with tail := match c.tail with
    | .hebrewLamed => .joinedHebrewLamed
    | .bugineseYa => .joinedBugineseYa
    | .tifinagh => .joinedTifinagh
    | .orkhonI => .joinedOrkhonI
    | t => t }

/-- The context before a selector. Joined pictures and ligatures go on through it. -/
def select (c : WidthContext) (s : Selector) : WidthContext :=
  let keeps := c.isLigature || c.tail = .arabicAlef || c.tail = .joined || c.tail = .joinedKeycap
  ⟨if keeps then c.tail else .plain, s⟩

end WidthContext

/-- Whether a character is one of the 26 regional indicators, two of which make a flag. -/
def isRegional (n : Nat) : Bool := 0x1F1E6 ≤ n && n ≤ 0x1F1FF

def isTifinagh (n : Nat) : Bool := (0x2D31 ≤ n && n ≤ 0x2D65) || n = 0x2D6F

/-- Whether a Khmer letter goes below the line after a coeng sign. -/
def isKhmerSubscript (n : Nat) : Bool :=
  (0x1780 ≤ n && n ≤ 0x1782) || (0x1784 ≤ n && n ≤ 0x1787) || (0x1789 ≤ n && n ≤ 0x178C) ||
    (0x178E ≤ n && n ≤ 0x1793) || (0x1795 ≤ n && n ≤ 0x1798) || (0x179B ≤ n && n ≤ 0x179D) ||
    n = 0x17A0 || n = 0x17A2 || n = 0x17A7 || n = 0x17AB || n = 0x17AC || n = 0x17AF

/-- The columns of a code point past the ASCII range that combines with nothing. -/
def columnsOf (n : Nat) : Nat :=
  if n = 0x17D8 then 3
  else if inRanges n zeroWidthRanges then 0
  else if inRanges n wideRanges then 2
  else 1

/-- The context before a code point past the ASCII range that does not combine with what follows. -/
def tailOf (n : Nat) : WidthContext :=
  if n = 0xFE0F then ⟨.plain, .picture⟩
  else if n = 0xFE0E then ⟨.plain, .text⟩
  else
    let tail : Tail :=
      if inRanges n alefRanges then .arabicAlef
      else if n = 0x5DC then .hebrewLamed
      else if n = 0x1A10 then .bugineseYa
      else if isKhmerSubscript n then .khmerLetter
      else if isTifinagh n then .tifinagh
      else if n = 0xA4FC || n = 0xA4FD then .lisuTone
      else if n = 0x10C03 then .orkhonI
      else if n = 0x16D67 then .kiratE
      else if n = 0x16D68 then .kiratAi
      else if isRegional n then .regional
      else if 0x1F3FB ≤ n && n ≤ 0x1F3FF then .skinTone
      else if inRanges n pictureRanges then .picture
      else .plain
    ⟨tail, .none⟩

/-- A code point that combines with what follows: the columns it adds, and the context before it. -/
def combine? (n : Nat) (after : WidthContext) : Option (Int × WidthContext) :=
  let goTo (w : Int) (t : Tail) : Option (Int × WidthContext) := some (w, ⟨t, .none⟩)
  match after.tail with
  | .arabicAlef =>
    if inRanges n lamRanges then goTo 0 .plain
    else if inRanges n joinTransparentRanges then goTo 0 .arabicAlef
    else none
  | .joinedHebrewLamed => if n = 0x5D0 then goTo 0 .plain else none
  | .khmerLetter => if n = 0x17D2 then goTo (-1) .plain else none
  | .joinedBugineseYa => if n = 0x1A17 then goTo 0 .bugineseVowelYa else none
  | .bugineseVowelYa => if n = 0x1A15 then goTo 0 .plain else none
  | .tifinagh => if n = 0x2D7F then goTo 1 .tifinaghJoiner else none
  | .joinedTifinagh =>
    if n = 0x2D7F then goTo 1 .tifinaghJoiner else if isTifinagh n then goTo 0 .plain else none
  | .tifinaghJoiner => if isTifinagh n then goTo (-1) .plain else none
  | .lisuTone => if 0xA4F8 ≤ n && n ≤ 0xA4FB then goTo 0 .plain else none
  | .joinedOrkhonI => if n = 0x10C32 then goTo 0 .plain else none
  | .kiratE =>
    if n = 0x16D63 || n = 0x16D69 then goTo 0 .plain
    else if n = 0x16D67 then goTo 0 .kiratAi
    else if n = 0x16D68 then goTo 1 .kiratE
    else none
  | .kiratAi => if n = 0x16D63 then goTo 0 .plain else none
  | .picture => if n = 0x200D then goTo 0 .joined else none
  | .skinTone =>
    if inRanges n toneBearingRanges then goTo 0 .picture
    else if n = 0x200D then goTo 0 .joined
    else none
  | .regional => if isRegional n then goTo 1 .regionals else none
  | .regionals =>
    if n = 0x200D then goTo 0 .joined else if isRegional n then goTo 1 .regionals else none
  | .joined =>
    if n = 0x20E3 then goTo 0 .joinedKeycap
    else if isRegional n then goTo 1 .joinedRegional
    else if 0x1F3FB ≤ n && n ≤ 0x1F3FF then goTo 0 .skinTone
    else if inRanges n pictureRanges then goTo 0 .picture
    else none
  | .joinedRegional | .joinedRegionalsOdd =>
    if isRegional n then goTo (-1) .joinedRegionalsEven
    else if n = 0x200D then goTo 0 .joined
    else none
  | .joinedRegionalsEven =>
    if isRegional n then goTo 3 .joinedRegionalsOdd
    else if n = 0x200D then goTo 0 .joined
    else none
  | .plain | .lineFeed | .joinedKeycap | .hebrewLamed | .bugineseYa | .orkhonI => none

/-- A code point past the ASCII range: the columns it adds, and the context before it. -/
def measurePastAscii (n : Nat) (after : WidthContext) : Int × WidthContext :=
  if after = .plain then (columnsOf n, tailOf n)
  else if n = 0xFE0F then (0, after.select .picture)
  else if n = 0xFE0E then (0, after.select .text)
  else if after.selector = .text && inRanges n textablePictureRanges then (1, .plain)
  else
    let after := { after with selector := .none }
    if after.isLigature && n = 0x200D then (0, after.join)
    else if after.isLigature && inRanges n ligatureTransparentRanges then (0, after)
    else (combine? n after).getD (columnsOf n, tailOf n)

def measureChar (c : Char) (after : WidthContext) : Int × WidthContext :=
  let n := c.toNat
  if after.selector = .picture && inRanges n picturableRanges then
    (if after.tail = .joined || after.tail = .joinedKeycap then 0 else 2, ⟨.picture, .none⟩)
  else if n ≤ 0xA0 then
    if c = '\n' then (1, ⟨.lineFeed, .none⟩)
    else if c = '\r' && after.tail = .lineFeed then (0, .plain)
    else (1, .plain)
  else measurePastAscii n
    (if after.selector = .picture then { after with selector := .none } else after)

def measure : List Char → Int × WidthContext
  | [] => (0, .plain)
  | c :: rest =>
    let after := measure rest
    let here := measureChar c after.2
    (here.1 + after.1, here.2)

/-- The number of terminal columns of a text on one line. -/
def width (s : List Char) : Nat := (measure s).1.toNat

end EditorBridge.Text
