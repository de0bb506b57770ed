import EditorBridge.Proofs.NodeBrackets
import EditorBridge.Proofs.PageParts

/-!
The wrapper of a page. The elements that a document shows end in order, so the wrapper is open around
the whole body of a page, and the tag behind the body closes it, unless HTML that the document
carries closes the wrapper, or leaves an element, a tag or a comment without its end.
-/

namespace EditorBridge.Html

open Markdown

/-! ### Elements that are open -/

def isVoid (name : List Char) : Bool :=
  (["area", "base", "br", "col", "embed", "hr", "img", "input", "link", "meta", "source", "track",
    "wbr"].map String.toList).contains name

def wrapperName : List Char := "div".toList

/-- What a tag makes of the elements that are open inside the wrapper, the innermost first: the end
of an element ends those inside it, too. Nothing if it ends the wrapper. -/
def openBehind? (inside : List (List Char)) : Bracket → Option (List (List Char))
  | .start name _ => some (if isVoid name then inside else name :: inside)
  | .stop name =>
    if name ∈ inside then some (inside.dropWhile (· ≠ name)).tail
    else if name = wrapperName then none
    else some inside

/-- The elements that are open inside the wrapper behind some tags; nothing if they end it. -/
def openBehindAll? (inside : List (List Char)) : List Bracket → Option (List (List Char))
  | [] => some inside
  | b :: rest => (openBehind? inside b).bind (openBehindAll? · rest)

/-- Whether every element that begins among tags ends there, after those inside it. -/
inductive Nested : List Bracket → Prop where
  | nil : Nested []
  | void {name : List Char} (attributes : List (List Char × List Char)) {rest : List Bracket}
      (hv : isVoid name = true) (hr : Nested rest) : Nested (.start name attributes :: rest)
  | element {name : List Char} (attributes : List (List Char × List Char))
      {inner rest : List Bracket} (hv : isVoid name = false) (hi : Nested inner)
      (hr : Nested rest) : Nested (.start name attributes :: (inner ++ .stop name :: rest))

theorem Nested.append {xs ys : List Bracket} (hx : Nested xs) (hy : Nested ys) :
    Nested (xs ++ ys) := by
  induction hx with
  | nil => exact hy
  | void attributes hv _ ih => exact .void attributes hv ih
  | element attributes hv hi _ _ ih =>
    rw [List.cons_append, List.append_assoc, List.cons_append]
    exact .element attributes hv hi ih

/-- Elements that end in order are not open behind their tags. -/
theorem openBehindAll_nested {xs : List Bracket} (h : Nested xs) (inside : List (List Char))
    (rest : List Bracket) :
    openBehindAll? inside (xs ++ rest) = openBehindAll? inside rest := by
  induction h generalizing inside rest with
  | nil => rfl
  | void attributes hv _ ih =>
    rw [List.cons_append, openBehindAll?, openBehind?, if_pos hv, Option.bind_some, ih]
  | @element name attributes inner more hv _ _ ihi ihr =>
    rw [List.cons_append, List.append_assoc, List.cons_append, openBehindAll?, openBehind?,
      if_neg (Bool.eq_false_iff.mp hv), Option.bind_some, ihi, openBehindAll?, openBehind?,
      if_pos List.mem_cons_self, Option.bind_some]
    simp [ihr]

/-- Where no element with the name of the wrapper begins, the wrapper is ended by any end of one. -/
theorem openBehindAll_of_no_start {xs : List Bracket} {inside : List (List Char)}
    (hs : ∀ attributes, .start wrapperName attributes ∉ xs) (hi : wrapperName ∉ inside) :
    (∃ out, openBehindAll? inside xs = some out ∧ wrapperName ∉ out) ↔ .stop wrapperName ∉ xs := by
  induction xs generalizing inside with
  | nil => simp [openBehindAll?, hi]
  | cons b xs ih =>
    have hr : ∀ attributes, .start wrapperName attributes ∉ xs :=
      fun attributes hm => hs attributes (List.mem_cons_of_mem _ hm)
    rw [openBehindAll?, List.mem_cons, not_or]
    cases b with
    | start name attributes =>
      have hn : wrapperName ≠ name := by
        rintro rfl
        exact hs attributes List.mem_cons_self
      have ho : wrapperName ∉ if isVoid name then inside else name :: inside := by
        split
        · exact hi
        · exact List.not_mem_cons_of_ne_of_not_mem hn hi
      rw [openBehind?, Option.bind_some, ih hr ho]
      simp
    | stop name =>
      rw [openBehind?]
      by_cases hm : name ∈ inside
      · have hn : wrapperName ≠ name := by
          rintro rfl
          exact hi hm
        have ho : wrapperName ∉ (inside.dropWhile (· ≠ name)).tail := fun h =>
          hi ((List.dropWhile_suffix _).subset (List.mem_of_mem_tail h))
        rw [if_pos hm, Option.bind_some, ih hr ho]
        simp [hn]
      · rw [if_neg hm]
        by_cases hw : name = wrapperName
        · simp [hw]
        · rw [if_neg hw, Option.bind_some, ih hr hi]
          simp [Ne.symm hw]

/-! ### Documents without HTML -/

mutual

def holdsHtml : Node → Bool
  | .html _ => true
  | .element (.image _) _ => false
  | .element _ children => holdHtml children
  | _ => false

def holdHtml : List Node → Bool
  | [] => false
  | n :: rest => holdsHtml n || holdHtml rest

end

theorem isVoid_heading (level : Nat) : isVoid ('h' :: Nat.toDigits 10 level) = false := by
  refine Bool.eq_false_iff.mpr fun hv => ?_
  have hd : ∀ c ∈ Nat.toDigits 10 level, c ≠ 'r' := by
    rintro c hc rfl
    exact absurd (mem_digits hc) (by decide)
  have hr : Nat.toDigits 10 level = ['r'] := by simpa [isVoid] using hv
  exact hd 'r' (by simp [hr]) rfl

theorem nested_element {tag : Tag} {inner : List Bracket} (h : ∀ target, tag ≠ .image target)
    (hi : Nested inner) : Nested (startsOf tag ++ inner ++ stopsOf tag) := by
  cases tag with
  | image target => exact absurd rfl (h target)
  | heading level => exact .element [] (isVoid_heading level) hi .nil
  | codeBlock info =>
    have hcode := Nested.element (languageAttributes (language (info.getD "")))
      (show isVoid "code".toList = false by decide) hi .nil
    have hpre := Nested.element [] (show isVoid "pre".toList = false by decide) hcode .nil
    simpa [startsOf, stopsOf] using hpre
  | list start => cases start <;> exact .element _ (by decide) hi .nil
  | _ => exact .element _ (by decide) hi .nil

theorem nested_own {n : Node} (h : (∃ target children, n = .element (.image target) children) ∨
    n.isLeaf = true) : Nested (ownBrackets n) := by
  obtain ⟨target, children, rfl⟩ | hn := h
  · exact .void _ (by decide) .nil
  · cases n with
    | element tag children => exact absurd hn Bool.false_ne_true
    | code s => exact .element [] (by decide) .nil .nil
    | hardBreak | rule => exact .void [] (by decide) .nil
    | _ => exact .nil

/-- A document without HTML shows nothing but elements that end in order. -/
theorem exists_nested {nodes : List Node} (h : holdHtml nodes = false) :
    ∃ brackets, bracketsIn? .text nodes = some (.text, brackets) ∧ Nested brackets := by
  induction nodes using Node.induct with
  | nil => exact ⟨[], rfl, .nil⟩
  | element tag children rest ihc ihr =>
    obtain ⟨hn, hr⟩ := Bool.or_eq_false_iff.mp h
    obtain ⟨ys, hy, hny⟩ := ihr hr
    by_cases hi : ∃ target, tag = .image target
    · obtain ⟨target, rfl⟩ := hi
      exact ⟨_, bracketsIn_cons.mpr ⟨.text, _, ys, rfl, hy, rfl⟩,
        (nested_own (.inl ⟨target, children, rfl⟩)).append hny⟩
    · have ht : ∀ target, tag ≠ .image target := fun target ht => hi ⟨target, ht⟩
      have hc : holdHtml children = false := by
        cases tag with
        | image target => exact absurd rfl (ht target)
        | _ => exact hn
      obtain ⟨inner, hinner, hni⟩ := ihc hc
      have hx := (bracketsAt_element ht).mpr ⟨rfl, rfl, inner, hinner, rfl⟩
      exact ⟨_, bracketsIn_cons.mpr ⟨.text, _, ys, hx, hy, rfl⟩, (nested_element ht hni).append hny⟩
  | leaf n rest hn ih =>
    obtain ⟨hs, hr⟩ := Bool.or_eq_false_iff.mp h
    obtain ⟨ys, hy, hny⟩ := ih hr
    have hh : ∀ s, n ≠ .html s := by
      rintro s rfl
      exact absurd hs.symm Bool.false_ne_true
    have hx : bracketsAt? .text n = some (.text, ownBrackets n) :=
      (bracketsAt_own (.inr ⟨hn, hh⟩)).mpr ⟨rfl, rfl, rfl⟩
    exact ⟨_, bracketsIn_cons.mpr ⟨.text, _, ys, hx, hy, rfl⟩, (nested_own (.inr hn)).append hny⟩

/-! ### The wrapper of a page -/

/-- Whether the wrapper of a page is open around the whole body, so that the tag behind the body
closes it: that tag is read as one, no tag before it has closed the wrapper, and no other element
with its name is open inside. -/
def IsWrapped (title : List Char) (style : Style) (body : List Char) : Prop :=
  ∃ inner inside,
    Runs .text (pageHead title style ++ '\n' :: body) .text
      (headBrackets style.wrapperClass ++ inner) ∧
    openBehindAll? [] inner = some inside ∧ wrapperName ∉ inside

def tailBrackets : List Bracket :=
  [.stop wrapperName, .stop "body".toList, .stop "html".toList]

section

variable {title : List Char} {style : Style} {body : List Char}

/-- The wrapper is told from the body alone. -/
theorem isWrapped_iff_body (h : '<' ∉ style.css.toList) :
    IsWrapped title style body ↔ (run .text body).1 = .text ∧
      ∃ inside ∈ openBehindAll? [] (bracketsOf body), wrapperName ∉ inside := by
  have hr : run .text (pageHead title style ++ '\n' :: body) =
      ((run .text body).1, headBrackets style.wrapperClass ++ bracketsOf body) := by
    have hn : run .text ('\n' :: body) = run .text body := rfl
    rw [run_append, runs_pageHead title h, hn, bracketsOf]
  rw [IsWrapped]
  simp only [Runs, hr, Prod.mk.injEq, List.append_cancel_left_eq]
  constructor
  · rintro ⟨inner, inside, ⟨hs, rfl⟩, ho⟩
    exact ⟨hs, inside, ho⟩
  · rintro ⟨hs, inside, ho⟩
    exact ⟨_, inside, ⟨hs, rfl⟩, ho⟩

theorem bracketsOf_pageOf (h : '<' ∉ style.css.toList) {brackets : List Bracket}
    (hb : Runs .text body .text brackets) :
    bracketsOf (pageOf title style body) =
      headBrackets style.wrapperClass ++ brackets ++ tailBrackets := by
  have ht : bracketsOf "</div>\n</body>\n</html>\n".toList = tailBrackets := by decide +kernel
  have hn : Runs .text ['\n'] .text [] := rfl
  rw [pageOf_eq, bracketsOf_append (runs_pageHead title h), pageRest, ← List.singleton_append,
    ← List.append_assoc, bracketsOf_append (hn.append hb), ht, List.nil_append, List.append_assoc]

end

/-- The body of a page without HTML in its document is inside the wrapper. With HTML that is whole,
the tags of the page are those of the nodes of the document; the body is inside the wrapper if all
elements end in order, and if no `div` begins in the document, exactly if none ends. -/
theorem isWrapped_page (title markdown : String) {style : Style} (h : '<' ∉ style.css.toList) :
    let nodes := parse markdown
    (holdHtml nodes = false → IsWrapped title.toList style (ofNodes nodes)) ∧
      ∀ brackets, bracketsIn? .text nodes = some (.text, brackets) →
        bracketsOf (page title markdown style).toList =
            headBrackets style.wrapperClass ++ brackets ++ tailBrackets ∧
          (Nested brackets → IsWrapped title.toList style (ofNodes nodes)) ∧
          ((∀ attributes, .start wrapperName attributes ∉ brackets) →
            (IsWrapped title.toList style (ofNodes nodes) ↔ .stop wrapperName ∉ brackets)) := by
  intro nodes
  have hw {brackets} (hb : bracketsIn? .text nodes = some (.text, brackets)) :
      IsWrapped title.toList style (ofNodes nodes) ↔
        ∃ inside ∈ openBehindAll? [] brackets, wrapperName ∉ inside := by
    have hr : run .text (ofNodes nodes) = (.text, brackets) := runs_ofNodesAt hb true
    rw [isWrapped_iff_body h, bracketsOf, hr]
    simp
  have hn {brackets} (hb : bracketsIn? .text nodes = some (.text, brackets))
      (hnested : Nested brackets) : IsWrapped title.toList style (ofNodes nodes) := by
    have ho := openBehindAll_nested hnested [] []
    rw [List.append_nil] at ho
    exact (hw hb).mpr ⟨[], ho, List.not_mem_nil⟩
  constructor
  · intro hh
    obtain ⟨brackets, hb, hnested⟩ := exists_nested hh
    exact hn hb hnested
  · intro brackets hb
    refine ⟨?_, hn hb, fun hs => ?_⟩
    · rw [page, String.toList_ofList]
      exact bracketsOf_pageOf h (runs_ofNodesAt hb true)
    · rw [hw hb]
      exact openBehindAll_of_no_start hs List.not_mem_nil

/-- A document with HTML that is whole, and whose elements end in order. -/
theorem html_in_order_isWrapped :
    '<' ∉ "p \x7b margin: 0 \x7d".toList ∧
      IsWrapped "T".toList ⟨"doc", "p \x7b margin: 0 \x7d"⟩
        (ofNodes (parse "<div\nid=\x22a\x22>\n\n- b<br>\n\n</div>")) := by
  have h : '<' ∉ "p \x7b margin: 0 \x7d".toList := by decide
  obtain ⟨-, hb⟩ := @isWrapped_page "T" "<div\nid=\x22a\x22>\n\n- b<br>\n\n</div>"
    ⟨"doc", "p \x7b margin: 0 \x7d"⟩ h
  have hitem := Nested.element [] (show isVoid "li".toList = false by decide)
    (.void [] (show isVoid "br".toList = true by decide) .nil) .nil
  have hlist := Nested.element [] (show isVoid "ul".toList = false by decide) hitem .nil
  have hall := Nested.element [("id".toList, "a".toList)]
    (show isVoid "div".toList = false by decide) hlist .nil
  exact ⟨h, (hb _ (by decide +kernel)).2.1 hall⟩

/-- An end of the wrapper, a `div` without its end and a comment without its end, in the text of a
document. -/
theorem html_breaks_wrapper :
    ¬IsWrapped "T".toList ⟨"doc", ""⟩ (ofNodes (parse "</div>")) ∧
      ¬IsWrapped "T".toList ⟨"doc", ""⟩ (ofNodes (parse "a </div> b")) ∧
      ¬IsWrapped "T".toList ⟨"doc", ""⟩ (ofNodes (parse "<div>")) ∧
      ¬IsWrapped "T".toList ⟨"doc", ""⟩ (ofNodes (parse "<!--")) := by
  have h : '<' ∉ (⟨"doc", ""⟩ : Style).css.toList := by decide
  simp only [isWrapped_iff_body h]
  decide +kernel

end EditorBridge.Html
