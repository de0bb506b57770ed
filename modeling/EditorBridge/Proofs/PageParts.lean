import EditorBridge.Proofs.HtmlBrackets

/-!
The parts of a page. The title, the style rules and the class of the wrapper are found again by
looking for what stands around them, and whatever the title and the class are, the tags of the page
are the same.
-/

namespace EditorBridge

namespace Text

/-! ### Looking for a text in a text -/

/-- Cuts a text at the first place where another text stands. -/
def cutAt? (mark : List Char) : List Char → Option (List Char × List Char)
  | [] => if mark = [] then some ([], []) else none
  | c :: rest =>
    if mark.isPrefixOf (c :: rest) then some ([], (c :: rest).drop mark.length)
    else (cutAt? mark rest).map fun (before, behind) => (c :: before, behind)

/-- The text behind the first place where another text stands. -/
def behind? (mark s : List Char) : Option (List Char) := (cutAt? mark s).map Prod.snd

/-- The text up to the first place where another text stands. -/
def upTo? (mark s : List Char) : Option (List Char) := (cutAt? mark s).map Prod.fst

/-- The text between the first place where a text stands and the next one where another does. -/
def between? (opening closing s : List Char) : Option (List Char) :=
  (behind? opening s).bind (upTo? closing)

/-- Whether a text neither holds another one nor begins one at its end. -/
def misses (mark : List Char) : List Char → Bool
  | [] => true
  | c :: rest =>
    !mark.isPrefixOf (c :: rest) && !(c :: rest).isPrefixOf mark && misses mark rest

section

variable {mark : List Char}

theorem cutAt_self (h : mark ≠ []) (rest : List Char) :
    cutAt? mark (mark ++ rest) = some ([], rest) := by
  obtain ⟨c, more, rfl⟩ := List.exists_cons_of_ne_nil h
  have hp : (c :: more).isPrefixOf (c :: (more ++ rest)) = true := by
    rw [List.isPrefixOf_iff_prefix]
    exact List.prefix_append (c :: more) rest
  rw [List.cons_append, cutAt?, if_pos hp]
  simp

/-- A text that misses another one is passed over. -/
theorem cutAt_passed {s : List Char} (h : misses mark s = true) (rest : List Char) :
    cutAt? mark (s ++ rest) = (cutAt? mark rest).map (Prod.map (s ++ ·) id) := by
  induction s with
  | nil =>
    rw [List.nil_append]
    cases cutAt? mark rest <;> rfl
  | cons c s ih =>
    simp only [misses, Bool.and_eq_true, Bool.not_eq_true', Bool.eq_false_iff, ne_eq,
      List.isPrefixOf_iff_prefix] at h
    obtain ⟨⟨hm, hn⟩, hs⟩ := h
    have hp : ¬mark.isPrefixOf (c :: (s ++ rest)) = true := by
      rw [List.isPrefixOf_iff_prefix]
      intro hp
      exact (List.prefix_or_prefix_of_prefix hp (List.prefix_append (c :: s) rest)).elim hm hn
    rw [List.cons_append, cutAt?, if_neg hp, ih hs, Option.map_map]
    rfl

/-- A text without the first character of another one misses it. -/
theorem misses_unmarked {s : List Char} {c : Char} (hm : mark.head? = some c) (hs : c ∉ s) :
    misses mark s = true := by
  obtain ⟨more, rfl⟩ := List.head?_eq_some_iff.mp hm
  induction s with
  | nil => rfl
  | cons d s ih =>
    obtain ⟨hd, hr⟩ := not_or.mp (fun hc => hs (List.mem_cons.mpr hc))
    simp [misses, List.isPrefixOf, hd, Ne.symm hd, ih hr]

theorem misses_append {s t : List Char} (hs : misses mark s = true) (ht : misses mark t = true) :
    misses mark (s ++ t) = true := by
  induction s with
  | nil => exact ht
  | cons c s ih =>
    simp only [List.cons_append, misses, Bool.and_eq_true, Bool.not_eq_true', Bool.eq_false_iff,
      ne_eq, List.isPrefixOf_iff_prefix] at hs ⊢
    obtain ⟨⟨hm, hn⟩, hr⟩ := hs
    refine ⟨⟨fun hp => ?_, fun hp => hn ((List.prefix_append (c :: s) t).trans hp)⟩, ih hr⟩
    exact (List.prefix_or_prefix_of_prefix hp (List.prefix_append (c :: s) t)).elim hm hn

/-- Behind what misses a text, the text is found. -/
theorem cutAt_found {s : List Char} (hn : mark ≠ []) (h : misses mark s = true)
    (rest : List Char) : cutAt? mark (s ++ (mark ++ rest)) = some (s, rest) := by
  rw [cutAt_passed h, cutAt_self hn, Option.map_some, Prod.map_apply, List.append_nil, id]

theorem between_found {opening closing front inside : List Char} (ho : opening ≠ [])
    (hc : closing ≠ []) (hf : misses opening front = true) (hi : misses closing inside = true)
    (rest : List Char) :
    between? opening closing (front ++ (opening ++ (inside ++ (closing ++ rest)))) =
      some inside := by
  rw [between?, behind?, cutAt_found ho hf, Option.map_some, Option.bind_some, upTo?,
    cutAt_found hc hi, Option.map_some]

end

end Text

namespace Html

open Text

/-! ### The beginning of a page -/

/-- A page up to the end of the tag that opens the wrapper. -/
def pageHead (title : List Char) (style : Style) : List Char :=
  "<!DOCTYPE html>\n<html>\n<head>\n<meta charset=\x22utf-8\x22>\n<title>".toList ++
    escape title ++ "</title>\n<style>".toList ++ style.css.toList ++
    "</style>\n</head>\n<body>\n<div class=\x22".toList ++ escape style.wrapperClass.toList ++
    ['\x22', '>']

def pageRest (body : List Char) : List Char :=
  '\n' :: (body ++ "</div>\n</body>\n</html>\n".toList)

theorem pageOf_eq (title : List Char) (style : Style) (body : List Char) :
    pageOf title style body = pageHead title style ++ pageRest body := by
  have hl : "\x22>\n".toList = ['\x22', '>', '\n'] := by decide
  have ha (front back : List Char) : front ++ "\x22>\n".toList ++ body ++ back =
      front ++ ['\x22', '>'] ++ '\n' :: (body ++ back) := by
    rw [hl]
    simp
  exact ha _ _

def headBrackets (wrapperClass : String) : List Bracket :=
  [.start "html".toList [], .start "head".toList [],
    .start "meta".toList [("charset".toList, "utf-8".toList)], .start "title".toList [],
    .stop "title".toList, .start "style".toList [], .stop "style".toList, .stop "head".toList,
    .start "body".toList [],
    .start "div".toList [("class".toList, escape wrapperClass.toList)]]

/-- Neither the title nor the class adds a tag, and the class is the whole value of its attribute.
-/
theorem runs_pageHead (title : List Char) {style : Style} (h : '<' ∉ style.css.toList) :
    Runs .text (pageHead title style) .text (headBrackets style.wrapperClass) := by
  have hq : '\x22' ∉ escape style.wrapperClass.toList := not_mem_escape (by decide) (by decide) _
  have hfirst : Runs .text
      "<!DOCTYPE html>\n<html>\n<head>\n<meta charset=\x22utf-8\x22>\n<title>".toList .text
      [.start "html".toList [], .start "head".toList [],
        .start "meta".toList [("charset".toList, "utf-8".toList)],
        .start "title".toList []] := by decide +kernel
  have hsecond : Runs .text "</title>\n<style>".toList .text
      [.stop "title".toList, .start "style".toList []] := by decide +kernel
  have hthird : Runs .text "</style>\n</head>\n<body>\n<div class=\x22".toList
      (.quoted '\x22' ⟨false, "div".toList, []⟩ "class".toList [])
      [.stop "style".toList, .stop "head".toList, .start "body".toList []] := by decide +kernel
  have hlast : Runs (.quoted '\x22' ⟨false, "div".toList, []⟩ "class".toList
      (escape style.wrapperClass.toList)) ['\x22', '>'] .text
      [.start "div".toList [("class".toList, escape style.wrapperClass.toList)]] := by rfl
  exact (((((hfirst.append (runs_text (angle_not_mem_escape title))).append hsecond).append
    (runs_text h)).append hthird).append (runs_quoted hq _ _ [])).append hlast

/-! ### Looking for the parts of a page -/

/-- The value of the class of the first `div` behind the style rules, up to the next quote. -/
def wrapperClass? (html : List Char) : Option (List Char) :=
  (behind? "</style>".toList html).bind fun rest =>
    (between? "<div".toList ['>'] rest).bind (between? " class=\x22".toList ['\x22'])

/-- Whether a page shows a title, style rules and the class of its wrapper, and has the tags of a
page around its body. -/
structure IsFramed (title : String) (style : Style) (body html : List Char) : Prop where
  title : (between? "<title>".toList "</title>".toList html).map decode = some title.toList
  css : between? "<style>".toList "</style>".toList html = some style.css.toList
  wrapperClass : (wrapperClass? html).map decode = some style.wrapperClass.toList
  /-- The class is one attribute of the wrapper, and the title makes no difference to the tags. -/
  brackets : bracketsOf html = headBrackets style.wrapperClass ++ bracketsOf (pageRest body)

/-- A page in the pieces that are looked for. -/
theorem pageOf_pieces (title : List Char) (style : Style) (body : List Char) :
    ∃ rest, pageOf title style body =
      "<!DOCTYPE html>\n<html>\n<head>\n<meta charset=\x22utf-8\x22>\n".toList ++
        ("<title>".toList ++ (escape title ++ ("</title>".toList ++ (['\n'] ++
          ("<style>".toList ++ (style.css.toList ++ ("</style>".toList ++
            ("\n</head>\n<body>\n".toList ++ ("<div".toList ++ (" class=\x22".toList ++
              (escape style.wrapperClass.toList ++ (['\x22'] ++ (['>'] ++ rest))))))))))))) := by
  have hfirst : "<!DOCTYPE html>\n<html>\n<head>\n<meta charset=\x22utf-8\x22>\n<title>".toList =
      "<!DOCTYPE html>\n<html>\n<head>\n<meta charset=\x22utf-8\x22>\n".toList ++
        "<title>".toList := by decide +kernel
  have hsecond : "</title>\n<style>".toList =
      "</title>".toList ++ (['\n'] ++ "<style>".toList) := by decide +kernel
  have hthird : "</style>\n</head>\n<body>\n<div class=\x22".toList = "</style>".toList ++
      ("\n</head>\n<body>\n".toList ++ ("<div".toList ++ " class=\x22".toList)) := by
    decide +kernel
  have hlast : ['\x22', '>'] = ['\x22'] ++ ['>'] := rfl
  refine ⟨pageRest body, ?_⟩
  rewrite [pageOf_eq]
  unfold pageHead
  rewrite [hfirst, hsecond, hthird, hlast]
  simp only [List.append_assoc]

section

variable {title : List Char} {style : Style} {body : List Char}

theorem between_title :
    between? "<title>".toList "</title>".toList (pageOf title style body) =
      some (escape title) := by
  obtain ⟨rest, hp⟩ := pageOf_pieces title style body
  have hf : misses "<title>".toList
      "<!DOCTYPE html>\n<html>\n<head>\n<meta charset=\x22utf-8\x22>\n".toList = true := by
    decide +kernel
  rw [hp]
  exact between_found (by decide) (by decide) hf
    (misses_unmarked (c := '<') rfl (angle_not_mem_escape title)) _

theorem between_style (h : '<' ∉ style.css.toList) :
    between? "<style>".toList "</style>".toList (pageOf title style body) =
      some style.css.toList := by
  obtain ⟨rest, hp⟩ := pageOf_pieces title style body
  have hfirst : misses "<style>".toList
      ("<!DOCTYPE html>\n<html>\n<head>\n<meta charset=\x22utf-8\x22>\n".toList ++
        "<title>".toList) = true := by decide +kernel
  have hlast : misses "<style>".toList ("</title>".toList ++ ['\n']) = true := by decide +kernel
  have hf := misses_append hfirst (misses_append
    (misses_unmarked (c := '<') rfl (angle_not_mem_escape title)) hlast)
  have hi : misses "</style>".toList style.css.toList = true :=
    misses_unmarked (c := '<') rfl h
  have hb := between_found (by decide) (by decide) hf hi
  rw [hp]
  simpa only [List.append_assoc] using hb _

/-- The class holds no greater-than sign that would end the tag, and no quote. -/
theorem wrapperClass_pageOf (h : '<' ∉ style.css.toList) :
    wrapperClass? (pageOf title style body) = some (escape style.wrapperClass.toList) := by
  obtain ⟨rest, hp⟩ := pageOf_pieces title style body
  have hescape {c : Char} (hc : c ∈ escapedChars) (ha : c ≠ '&') :
      misses [c] (escape style.wrapperClass.toList) = true :=
    misses_unmarked rfl (not_mem_escape hc ha _)
  have hfirst : misses "</style>".toList
      ("<!DOCTYPE html>\n<html>\n<head>\n<meta charset=\x22utf-8\x22>\n".toList ++
        "<title>".toList) = true := by decide +kernel
  have hsecond : misses "</style>".toList
      ("</title>".toList ++ (['\n'] ++ "<style>".toList)) = true := by decide +kernel
  have hf := misses_append hfirst (misses_append
    (misses_unmarked (c := '<') rfl (angle_not_mem_escape title))
    (misses_append hsecond (misses_unmarked (c := '<') rfl h)))
  have hi : misses ['>'] (" class=\x22".toList ++ (escape style.wrapperClass.toList ++ ['\x22'])) =
      true :=
    misses_append (by decide) (misses_append (hescape (by decide) (by decide)) (by decide))
  have hcut := fun rest => cutAt_found (by decide) hf rest
  simp only [List.append_assoc] at hcut
  have htag := between_found (by decide) (by decide)
    (show misses "<div".toList "\n</head>\n<body>\n".toList = true by decide +kernel) hi rest
  simp only [List.append_assoc] at htag
  rw [wrapperClass?, behind?, hp, hcut, Option.map_some, Option.bind_some, htag, Option.bind_some]
  have hfront : misses " class=\x22".toList [] = true := rfl
  have hvalue : misses ['\x22'] (escape style.wrapperClass.toList) = true :=
    hescape (by decide) (by decide)
  exact between_found (by decide) (by decide) hfront hvalue []

end

/-- The title, the style rules and the class are found again in a page, and no title and no class
adds a tag to it. -/
theorem page_isFramed (title markdown : String) {style : Style} (h : '<' ∉ style.css.toList) :
    IsFramed title style (ofNodes (Markdown.parse markdown))
      (page title markdown style).toList := by
  rw [page, String.toList_ofList]
  constructor
  · rw [between_title, Option.map_some, decode_escape]
  · exact between_style h
  · rw [wrapperClass_pageOf h, Option.map_some, decode_escape]
  · rw [pageOf_eq, bracketsOf_append (runs_pageHead _ h)]

/-- A title and a class that try to end their element and their attribute. -/
theorem hostile_page_isFramed :
    '<' ∉ "p \x7b margin: 0 \x7d".toList ∧
      IsFramed "</title><script>&lt;" ⟨"a\x22><b>", "p \x7b margin: 0 \x7d"⟩
        (ofNodes (Markdown.parse "</div>"))
        (page "</title><script>&lt;" "</div>" ⟨"a\x22><b>", "p \x7b margin: 0 \x7d"⟩).toList := by
  have h : '<' ∉ "p \x7b margin: 0 \x7d".toList := by decide
  exact ⟨h, page_isFramed _ _ h⟩

end Html

end EditorBridge
