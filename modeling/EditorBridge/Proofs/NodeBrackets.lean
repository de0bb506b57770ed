import EditorBridge.Proofs.HtmlBrackets
import EditorBridge.Proofs.NodePlaces

/-!
The tags of documents. Each node shows the tags of its element, with its texts and addresses as the
values of attributes. Nothing else of a document is read as a tag but the HTML that it carries.
-/

namespace EditorBridge.Html

open Markdown

/-! ### The tags of nodes -/

def titleAttributes (title : String) : List (List Char × List Char) :=
  if title.isEmpty then [] else [("title".toList, escape title.toList)]

def languageAttributes (name : List Char) : List (List Char × List Char) :=
  if name.isEmpty then [] else [("class".toList, "language-".toList ++ escape name)]

def linkAddress (target : Target) : List Char :=
  (if target.isMail then "mailto:".toList else []) ++ escapeAddress target.destination.toList

/-- The tags at the beginning of an element. An image is shown by one tag. -/
def startsOf : Tag → List Bracket
  | .paragraph => [.start "p".toList []]
  | .heading level => [.start ('h' :: Nat.toDigits 10 level) []]
  | .blockQuote => [.start "blockquote".toList []]
  | .codeBlock info => [.start "pre".toList [],
      .start "code".toList (languageAttributes (language (info.getD "")))]
  | .list none => [.start "ul".toList []]
  | .list (some start) => [.start "ol".toList
      (if start = 1 then [] else [("start".toList, Nat.toDigits 10 start)])]
  | .item => [.start "li".toList []]
  | .emphasis => [.start "em".toList []]
  | .strong => [.start "strong".toList []]
  | .link target =>
    [.start "a".toList (("href".toList, linkAddress target) :: titleAttributes target.title)]
  | .image _ => []

def stopsOf : Tag → List Bracket
  | .paragraph => [.stop "p".toList]
  | .heading level => [.stop ('h' :: Nat.toDigits 10 level)]
  | .blockQuote => [.stop "blockquote".toList]
  | .codeBlock _ => [.stop "code".toList, .stop "pre".toList]
  | .list none => [.stop "ul".toList]
  | .list (some _) => [.stop "ol".toList]
  | .item => [.stop "li".toList]
  | .emphasis => [.stop "em".toList]
  | .strong => [.stop "strong".toList]
  | .link _ => [.stop "a".toList]
  | .image _ => []

def ownBrackets : Node → List Bracket
  | .element (.image target) children => [.start "img".toList
      (("src".toList, escapeAddress target.destination.toList) ::
        ("alt".toList, alternativeOf children) :: titleAttributes target.title)]
  | .code _ => [.start "code".toList [], .stop "code".toList]
  | .hardBreak => [.start "br".toList []]
  | .rule => [.start "hr".toList []]
  | _ => []

/-- The elements that are read in ways of their own: what stands in them is text, or is read by
other rules, or they end elements around them when they begin, or keep end tags from elements around
them. -/
def specialNames : List String :=
  ["script", "style", "title", "textarea", "xmp", "iframe", "noembed", "noframes", "noscript",
    "plaintext", "svg", "math", "template", "select", "frameset", "button", "li", "dd", "dt",
    "table", "caption", "td", "th", "object", "applet", "marquee"]

def Bracket.tagName : Bracket → List Char
  | .start name _ => name
  | .stop name => name

def Bracket.isOrdinary (b : Bracket) : Bool := !(specialNames.map String.toList).contains b.tagName

mutual

/-- The tags of a node that is read in a state, and the state behind it. A tag or a comment may go
on from HTML to HTML beside it, and nothing else may stand in one. -/
def bracketsAt? (state : State) : Node → Option (State × List Bracket)
  | .html s =>
    if (run state s.toList).2.all Bracket.isOrdinary then some (run state s.toList) else none
  | .element (.image target) children =>
    if state = .text then some (.text, ownBrackets (.element (.image target) children)) else none
  | .element tag children =>
    (bracketsIn? .text children).bind fun (next, inner) =>
      if state = .text ∧ next = .text then some (.text, startsOf tag ++ inner ++ stopsOf tag)
      else none
  | n => if state = .text then some (.text, ownBrackets n) else none

def bracketsIn? (state : State) : List Node → Option (State × List Bracket)
  | [] => some (state, [])
  | n :: rest =>
    (bracketsAt? state n).bind fun (mid, xs) =>
      (bracketsIn? mid rest).map fun (next, ys) => (next, xs ++ ys)

end

/-! ### Reading the tags of nodes -/

theorem quote_not_mem_escape (s : List Char) : '\x22' ∉ escape s :=
  not_mem_escape (by decide) (by decide) s

theorem quote_not_mem_percentChar (c : Char) : '\x22' ∉ Text.percentChar c := by
  have hd : ∀ n < 16, Text.upperHexDigit n ≠ '\x22' := by decide
  intro h
  obtain ⟨b, -, hb⟩ := List.mem_flatMap.mp h
  have hfirst := hd (b.toNat / 16) (by have := b.toNat_lt; omega)
  have hlast := hd (b.toNat % 16) (by omega)
  simp [Text.percentByte, Ne.symm hfirst, Ne.symm hlast] at hb

theorem quote_not_mem_escapeAddress (s : List Char) : '\x22' ∉ escapeAddress s := by
  intro h
  obtain ⟨c, -, hc⟩ := List.mem_flatMap.mp h
  rw [escapeAddressChar] at hc
  split at hc
  · rename_i ha
    obtain rfl := List.mem_singleton.mp hc
    exact absurd ha (by decide)
  · split at hc
    · exact absurd hc (by decide)
    · split at hc
      · exact absurd hc (by decide)
      · exact quote_not_mem_percentChar c hc

/-- The alternative text of an image is escaped, whatever stands in the image. -/
theorem quote_not_mem_alternativeOf (nodes : List Node) : '\x22' ∉ alternativeOf nodes := by
  induction nodes using Node.induct with
  | nil => exact List.not_mem_nil
  | element tag children rest ihc ihr =>
    rw [alternativeOf, alternative, List.mem_append]
    exact not_or.mpr ⟨ihc, ihr⟩
  | leaf n rest hn ih =>
    have ha : '\x22' ∉ alternative n := by
      cases n with
      | element tag children => exact absurd hn Bool.false_ne_true
      | text s | code s | html s => exact quote_not_mem_escape s.toList
      | softBreak | hardBreak | rule => decide
    rw [alternativeOf, List.mem_append]
    exact not_or.mpr ⟨ha, ih⟩

theorem mem_digits {c : Char} {n : Nat} (h : c ∈ Nat.toDigits 10 n) :
    c ∈ ['0', '1', '2', '3', '4', '5', '6', '7', '8', '9'] := by
  have hd : 48 ≤ c.toNat ∧ c.toNat ≤ 57 := by
    simpa [Char.isDigit, UInt32.le_iff_toNat_le] using
      Nat.isDigit_of_mem_toDigits (by decide) (by decide) h
  have hs : ∀ n < 58, 48 ≤ n →
      Char.ofNat n ∈ ['0', '1', '2', '3', '4', '5', '6', '7', '8', '9'] := by decide +kernel
  have hc := hs c.toNat (by omega) hd.1
  rwa [Char.ofNat_toNat] at hc

theorem quote_not_mem_digits (n : Nat) : '\x22' ∉ Nat.toDigits 10 n :=
  fun h => absurd (mem_digits h) (by decide)

/-- A name goes on with digits. -/
theorem runs_digits (isStop : Bool) (read : List Char) (n : Nat) :
    Runs (.name isStop read) (Nat.toDigits 10 n) (.name isStop (read ++ Nat.toDigits 10 n)) [] := by
  have hd : ∀ c ∈ Nat.toDigits 10 n,
      c ∈ ['0', '1', '2', '3', '4', '5', '6', '7', '8', '9'] := fun c hc => mem_digits hc
  generalize Nat.toDigits 10 n = s at hd
  induction s generalizing read with
  | nil => simp [Runs, run]
  | cons c s ih =>
    obtain ⟨hc, hs⟩ := List.forall_mem_cons.mp hd
    have hname : (['0', '1', '2', '3', '4', '5', '6', '7', '8', '9'].all fun c =>
        !(c = '>' || isSpace c || c = '/') && c.toLower == c) = true := by decide
    have hn := List.all_eq_true.mp hname c hc
    rw [Bool.and_eq_true, Bool.not_eq_true', beq_iff_eq] at hn
    obtain ⟨hn, hl⟩ := hn
    have hstep : step (.name isStop read) c = (.name isStop (read ++ [c]), []) := by
      rw [step, hn, hl]
      rfl
    rw [Runs, run, hstep, ih _ hs]
    simp

/-- A quote ends a value and with it the tag. -/
theorem runs_lastQuote (t : Draft) (key value : List Char) :
    Runs (.quoted '\x22' t key value) ['\x22', '>'] .text [(t.add key value).bracket] := rfl

section

variable (name key value : List Char) (attributes : List (List Char × List Char))

/-- A title is one more value of a tag. -/
theorem runs_title (title : String) : ∃ t key' value',
    Runs (.quoted '\x22' ⟨false, name, attributes⟩ key value) (titleAttribute title)
      (.quoted '\x22' t key' value') [] ∧
    (t.add key' value').bracket =
      .start name (attributes ++ (key, value) :: titleAttributes title) := by
  rw [titleAttribute, titleAttributes]
  split
  · exact ⟨⟨false, name, attributes⟩, key, value, rfl, rfl⟩
  · have hbegin : Runs (.quoted '\x22' ⟨false, name, attributes⟩ key value)
        "\x22 title=\x22".toList
        (.quoted '\x22' ⟨false, name, attributes ++ [(key, value)]⟩ "title".toList []) [] :=
      rfl
    have h := hbegin.append (runs_quoted (quote_not_mem_escape title.toList)
      ⟨false, name, attributes ++ [(key, value)]⟩ "title".toList [])
    exact ⟨_, _, _, h, by simp [Draft.bracket, Draft.add]⟩

end

/-- What opens an element is read as its tags. -/
theorem runs_openTag (atStart : Bool) {tag : Tag} (h : ∀ target, tag ≠ .image target) :
    Runs .text (openTag atStart tag) .text (startsOf tag) := by
  cases tag with
  | paragraph | blockQuote | item | emphasis | strong => cases atStart <;> rfl
  | image target => exact absurd rfl (h target)
  | heading level =>
    have hbegin : Runs .text (onNewLine atStart "<h") (.name false ['h']) [] := by
      cases atStart <;> rfl
    exact (hbegin.append (runs_digits false ['h'] level)).append (t := ['>']) rfl
  | codeBlock info =>
    have hbegin : Runs .text (onNewLine atStart "<pre><code") (.name false "code".toList)
        [.start "pre".toList []] := by cases atStart <;> rfl
    unfold openTag startsOf languageAttributes
    dsimp only
    split
    · exact (hbegin.append (t := []) rfl).append (t := ['>']) rfl
    · have hclass : Runs (.name false "code".toList) " class=\x22language-".toList
          (.quoted '\x22' ⟨false, "code".toList, []⟩ "class".toList "language-".toList) [] := by
        rfl
      have hname := hclass.append (runs_quoted
        (quote_not_mem_escape (language (info.getD ""))) ⟨false, "code".toList, []⟩ _ _)
      have hlast := hname.append (runs_lastQuote _ _ _)
      have hall := hbegin.append hlast
      simpa [Draft.bracket, Draft.add] using hall
  | list start =>
    cases start with
    | none => cases atStart <;> rfl
    | some start =>
      unfold openTag startsOf
      dsimp only
      split
      · cases atStart <;> rfl
      · have hbegin : Runs .text (onNewLine atStart "<ol start=\x22")
            (.quoted '\x22' ⟨false, "ol".toList, []⟩ "start".toList []) [] := by
          cases atStart <;> rfl
        have hnumber := hbegin.append (runs_quoted (quote_not_mem_digits start) _ _ _)
        exact hnumber.append (t := ['\x22', '>', '\n']) rfl
  | link target =>
    have hbegin : Runs .text "<a href=\x22".toList
        (.quoted '\x22' ⟨false, "a".toList, []⟩ "href".toList []) [] := rfl
    have hmail : '\x22' ∉ (if target.isMail then "mailto:".toList else []) := by
      split <;> decide
    obtain ⟨t, key, value, htitle, hb⟩ :=
      runs_title "a".toList "href".toList (linkAddress target) [] target.title
    have haddress := (hbegin.append (runs_quoted hmail _ _ _)).append
      (runs_quoted (quote_not_mem_escapeAddress target.destination.toList) _ _ _)
    have hall := (haddress.append htitle).append (runs_lastQuote t key value)
    rw [hb] at hall
    exact hall

/-- What closes an element is read as its tags. -/
theorem runs_closeTag {tag : Tag} (h : ∀ target, tag ≠ .image target) :
    Runs .text (closeTag tag) .text (stopsOf tag) := by
  cases tag with
  | paragraph | blockQuote | codeBlock info | item | emphasis | strong | link target => rfl
  | image target => exact absurd rfl (h target)
  | heading level =>
    have hbegin : Runs .text "</h".toList (.name true ['h']) [] := rfl
    exact (hbegin.append (runs_digits true ['h'] level)).append (t := ['>', '\n']) rfl
  | list start => cases start <;> rfl

theorem runs_image (atStart : Bool) (target : Target) (children : List Node) :
    Runs .text (ofNode atStart (.element (.image target) children)) .text
      (ownBrackets (.element (.image target) children)) := by
  have hbegin : Runs .text "<img src=\x22".toList
      (.quoted '\x22' ⟨false, "img".toList, []⟩ "src".toList []) [] := rfl
  have hsource := hbegin.append (runs_quoted
    (quote_not_mem_escapeAddress target.destination.toList) ⟨false, "img".toList, []⟩ _ [])
  have hkey (value : List Char) : Runs (.quoted '\x22' ⟨false, "img".toList, []⟩ "src".toList value)
      "\x22 alt=\x22".toList
      (.quoted '\x22' ⟨false, "img".toList, [("src".toList, value)]⟩ "alt".toList []) [] := rfl
  obtain ⟨t, key, value, htitle, hb⟩ := runs_title "img".toList "alt".toList
    (alternativeOf children) [("src".toList, escapeAddress target.destination.toList)] target.title
  have hlast : Runs (.quoted '\x22' t key value) ['\x22', ' ', '/', '>'] .text
      [(t.add key value).bracket] := rfl
  have hall := ((hsource.append (hkey _)).append
    (runs_quoted (quote_not_mem_alternativeOf children) _ _ _)).append (htitle.append hlast)
  rw [hb] at hall
  exact hall

/-- A node that is no element and no HTML is read as its tags. -/
theorem runs_leaf (atStart : Bool) {n : Node} (hn : n.isLeaf = true) (hh : ∀ s, n ≠ .html s) :
    Runs .text (ofNode atStart n) .text (ownBrackets n) := by
  cases n with
  | element tag children => exact absurd hn Bool.false_ne_true
  | html s => exact absurd rfl (hh s)
  | text s => exact runs_text (angle_not_mem_escape s.toList)
  | code s =>
    have hbegin : Runs .text "<code>".toList .text [.start "code".toList []] := rfl
    have hlast : Runs .text "</code>".toList .text [.stop "code".toList] := rfl
    exact (hbegin.append (runs_text (angle_not_mem_escape s.toList))).append hlast
  | softBreak | hardBreak | rule => cases atStart <;> rfl

section

variable {state next : State} {tag : Tag} {n : Node} {children rest : List Node}
  {brackets : List Bracket}

theorem bracketsIn_cons : bracketsIn? state (n :: rest) = some (next, brackets) ↔
    ∃ mid xs ys, bracketsAt? state n = some (mid, xs) ∧ bracketsIn? mid rest = some (next, ys) ∧
      brackets = xs ++ ys := by
  rw [bracketsIn?]
  simp only [Option.bind_eq_some_iff, Option.map_eq_some_iff, Prod.exists, Prod.mk.injEq]
  constructor
  · rintro ⟨mid, xs, hx, last, ys, hy, rfl, rfl⟩
    exact ⟨mid, xs, ys, hx, hy, rfl⟩
  · rintro ⟨mid, xs, ys, hx, hy, rfl⟩
    exact ⟨mid, xs, hx, next, ys, hy, rfl, rfl⟩

theorem bracketsAt_element (h : ∀ target, tag ≠ .image target) :
    bracketsAt? state (.element tag children) = some (next, brackets) ↔
      state = .text ∧ next = .text ∧ ∃ inner, bracketsIn? .text children = some (.text, inner) ∧
        brackets = startsOf tag ++ inner ++ stopsOf tag := by
  have he : bracketsAt? state (.element tag children) =
      (bracketsIn? .text children).bind fun (next, inner) =>
        if state = .text ∧ next = .text then some (.text, startsOf tag ++ inner ++ stopsOf tag)
        else none := by
    cases tag with
    | image target => exact absurd rfl (h target)
    | _ => rfl
  simp only [he, Option.bind_eq_some_iff, Prod.exists, Option.ite_none_right_eq_some,
    Option.some.injEq, Prod.mk.injEq]
  constructor
  · rintro ⟨mid, inner, hi, ⟨rfl, rfl⟩, rfl, rfl⟩
    exact ⟨rfl, rfl, inner, hi, rfl⟩
  · rintro ⟨rfl, rfl, inner, hi, rfl⟩
    exact ⟨.text, inner, hi, ⟨rfl, rfl⟩, rfl, rfl⟩

theorem bracketsAt_html {s : String} :
    bracketsAt? state (.html s) = some (next, brackets) ↔
      run state s.toList = (next, brackets) ∧ ∀ b ∈ brackets, b.isOrdinary = true := by
  rw [bracketsAt?, Option.ite_none_right_eq_some, Option.some.injEq, List.all_eq_true]
  constructor
  · rintro ⟨ho, hr⟩
    exact ⟨hr, by rwa [hr] at ho⟩
  · rintro ⟨hr, ho⟩
    exact ⟨by rwa [hr], hr⟩

/-- Any other node is read where no tag and no comment has begun. -/
theorem bracketsAt_own (h : (∃ target children, n = .element (.image target) children) ∨
    n.isLeaf = true ∧ ∀ s, n ≠ .html s) :
    bracketsAt? state n = some (next, brackets) ↔
      state = .text ∧ next = .text ∧ brackets = ownBrackets n := by
  have he : bracketsAt? state n =
      if state = .text then some (.text, ownBrackets n) else none := by
    obtain ⟨target, children, rfl⟩ | ⟨hn, hh⟩ := h
    · rfl
    · cases n with
      | element tag children => exact absurd hn Bool.false_ne_true
      | html s => exact absurd rfl (hh s)
      | _ => rfl
  rw [he, Option.ite_none_right_eq_some, Option.some.injEq, Prod.mk.injEq, eq_comm (a := State.text),
    eq_comm (a := ownBrackets n)]

end

/-- A document is read as the tags of its nodes, if the HTML that it carries is whole. -/
theorem runs_ofNodesAt {nodes : List Node} {state next : State} {brackets : List Bracket}
    (h : bracketsIn? state nodes = some (next, brackets)) (atStart : Bool) :
    Runs state (ofNodesAt atStart nodes) next brackets := by
  induction nodes using Node.induct generalizing state next brackets atStart with
  | nil =>
    obtain ⟨rfl, rfl⟩ := Prod.mk.inj (Option.some.inj h)
    rfl
  | element tag children rest ihc ihr =>
    obtain ⟨mid, xs, ys, hx, hy, rfl⟩ := bracketsIn_cons.mp h
    refine Runs.append ?_ (ihr hy _)
    by_cases hi : ∃ target, tag = .image target
    · obtain ⟨target, rfl⟩ := hi
      obtain ⟨rfl, rfl, rfl⟩ := (bracketsAt_own (.inl ⟨target, children, rfl⟩)).mp hx
      exact runs_image atStart target children
    · have hn : ∀ target, tag ≠ .image target := fun target ht => hi ⟨target, ht⟩
      obtain ⟨rfl, rfl, inner, hc, rfl⟩ := (bracketsAt_element hn).mp hx
      have ho : ofNode atStart (.element tag children) = openTag atStart tag ++
          ofNodesAt (endsLine atStart (openTag atStart tag)) children ++ closeTag tag := by
        cases tag with
        | image target => exact absurd rfl (hn target)
        | _ => rfl
      rw [ho]
      exact ((runs_openTag atStart hn).append (ihc hc _)).append (runs_closeTag hn)
  | leaf n rest hn ih =>
    obtain ⟨mid, xs, ys, hx, hy, rfl⟩ := bracketsIn_cons.mp h
    refine Runs.append ?_ (ih hy _)
    by_cases hh : ∃ s, n = .html s
    · obtain ⟨s, rfl⟩ := hh
      exact (bracketsAt_html.mp hx).1
    · have ho : ∀ s, n ≠ .html s := fun s hs => hh ⟨s, hs⟩
      obtain ⟨rfl, rfl, rfl⟩ := (bracketsAt_own (.inr ⟨hn, ho⟩)).mp hx
      exact runs_leaf atStart hn ho

end EditorBridge.Html
