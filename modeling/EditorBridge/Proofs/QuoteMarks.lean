import EditorBridge.Proofs.FaceNesting
import EditorBridge.Proofs.InlineNodes

/-!
The marks of quotes. A line of a quote should begin with a mark and hold no other. The reader writes
a mark before each text of a quote, before no code and no HTML, and before nothing behind the end of
a quote inside another one. Hence the lines of quotes are marked exactly in documents in which, in
every quote, each line begins with a text and holds no other one, and nothing stands behind a quote
inside it.
-/

namespace EditorBridge

namespace Markdown

/-! ### Documents with quotes -/

/-- Whether an event stands inside a line of text, or breaks it. -/
def Event.isInline : Event → Bool
  | .enter tag | .leave tag => tag.isInline
  | .rule => false
  | _ => true

mutual

/-- Whether the quotes in a node hold nothing but quotes, paragraphs of text, code, HTML, breaks and
elements of a line, and blocks of HTML, if the node stands in a quote or not. -/
def Node.hasPlainQuotes (quoted : Bool) : Node → Bool
  | .element .blockQuote children => havePlainQuotes true children
  | .element tag children =>
    if quoted then tag == .paragraph && (eventsOf children).all Event.isInline
    else havePlainQuotes false children
  | .html _ => true
  | _ => !quoted

/-- Whether the quotes in nodes hold nothing but quotes, paragraphs and blocks of HTML. -/
def havePlainQuotes (quoted : Bool) : List Node → Bool
  | [] => true
  | n :: rest => n.hasPlainQuotes quoted && havePlainQuotes quoted rest

end

def Node.isQuote : Node → Bool
  | .element .blockQuote _ => true
  | _ => false

def quoteDepth (depth : Nat) : Event → Nat
  | .enter .blockQuote => depth + 1
  | .leave .blockQuote => depth - 1
  | _ => depth

def Event.isText : Event → Bool
  | .text _ => true
  | _ => false

end Markdown

namespace Markup

open Markdown

/-! ### Lines with marks -/

inductive Part where
  /-- The mark of a quote. -/
  | mark
  /-- The text of the document. -/
  | own
  /-- Any other sign. -/
  | layout
  deriving DecidableEq, Repr

/-- A character that is seen, and whether it is shown in a quote. -/
structure Glyph where
  char : Char
  part : Part
  quoted : Bool
  deriving DecidableEq, Repr

def glyphs (ctx : Context) (depth : Nat) (e : Event) : List Glyph :=
  (marks ctx e).map (⟨·, if e.isText then .mark else .layout, decide (0 < depth)⟩) ++
    (ownText e).map (⟨·, .own, decide (0 < depth)⟩)

def glyphsFrom (ctx : Context) (depth : Nat) : List Event → List Glyph
  | [] => []
  | e :: rest => glyphs ctx depth e ++ glyphsFrom (read ctx e).1 (quoteDepth depth e) rest

def glyphsOf (nodes : List Node) : List Glyph := glyphsFrom .start 0 (eventsOf nodes)

def quoteMark : List Glyph := [⟨'>', .mark, true⟩, ⟨' ', .mark, true⟩]

/-- Whether a character may stand behind others on its line: a mark at the beginning of a line of a
quote, and text of a quote behind the mark. -/
def Glyph.Fits (g : Glyph) (line : List Glyph) : Prop :=
  (g.part = .mark → line ++ [g] <+: quoteMark) ∧
    (g.part = .own → g.quoted = true → g.char ≠ '\n' → quoteMark <+: line)

instance (g : Glyph) (line : List Glyph) : Decidable (g.Fits line) :=
  inferInstanceAs (Decidable (_ ∧ _))

def nextLine (line : List Glyph) (g : Glyph) : List Glyph :=
  if g.char = '\n' then [] else line ++ [g]

def lineAfter (line : List Glyph) (gs : List Glyph) : List Glyph := gs.foldl nextLine line

/-- Whether each line of a document that shows text of a quote begins with a mark, and there are no
other marks: whatever is seen fits the part of its line before it. -/
def QuotesMarked (nodes : List Node) : Prop :=
  ∀ front g, front ++ [g] <+: glyphsOf nodes → g.Fits (lineAfter [] front)

theorem char_glyphs (ctx : Context) (depth : Nat) (e : Event) :
    (glyphs ctx depth e).map Glyph.char = marks ctx e ++ ownText e := by
  simp [glyphs, Function.comp_def]

theorem char_glyphsFrom (ctx : Context) (depth : Nat) (events : List Event) :
    (glyphsFrom ctx depth events).map Glyph.char = layoutFrom ctx events := by
  induction events generalizing ctx depth with
  | nil => rfl
  | cons e rest ih => rw [glyphsFrom, List.map_append, char_glyphs, ih, layoutFrom]

/-! ### Documents whose marks fit -/

/-- Whether a text fits a line: if a mark begins the line, nothing stands behind a line feed in the
text, and if the line is empty, nothing stands in the text. -/
def fitsLine (begun : Bool) (s : List Char) : Bool :=
  if begun then (s.dropWhile (· != '\n')).all (· == '\n') else s.all (· == '\n')

/-- Whether an event fits a line of a quote that a mark begins or that is empty. -/
def eventFits (begun : Bool) (e : Event) : Bool :=
  if e.isText then !begun && fitsLine true (ownText e) else fitsLine begun (ownText e)

def begunAfter (begun : Bool) : Event → Bool
  | .softBreak | .hardBreak => false
  | e => (begun || e.isText) && !(ownText e).contains '\n'

/-- Whether the events of a paragraph fit the lines of a quote: each line begins with a text and
holds no other one. -/
def eventsFit (begun : Bool) : List Event → Bool
  | [] => true
  | e :: rest => eventFits begun e && eventsFit (begunAfter begun e) rest

/-- Whether nothing is seen of the text of an event but line feeds. -/
def isSilent (e : Event) : Bool := (ownText e).all (· == '\n')

mutual

/-- Whether a node fits the lines of quotes, if it stands in a quote or not and if marks are written
for it. -/
def nodeFits (quoted marking : Bool) : Node → Bool
  | .element .blockQuote children => nodesFit true true children
  | .element _ children =>
    if quoted then
      if marking then eventsFit false (eventsOf children) else (eventsOf children).all isSilent
    else nodesFit false marking children
  | .html s => !quoted || isSilent (.html s)
  | _ => true

/-- Whether nodes fit the lines of quotes. In a quote, marks are written up to the first quote inside
it. -/
def nodesFit (quoted marking : Bool) : List Node → Bool
  | [] => true
  | n :: rest => nodeFits quoted marking n && nodesFit quoted (marking && !n.isQuote) rest

end

/-! ### Reading lines -/

/-- Whether characters fit, read from left to right behind a part of a line. -/
def MarkedFrom (line : List Glyph) : List Glyph → Prop
  | [] => True
  | g :: rest => g.Fits line ∧ MarkedFrom (nextLine line g) rest

instance decidableMarkedFrom : (line gs : List Glyph) → Decidable (MarkedFrom line gs)
  | _, [] => inferInstanceAs (Decidable True)
  | line, g :: rest =>
    have := decidableMarkedFrom (nextLine line g) rest
    inferInstanceAs (Decidable (_ ∧ _))

theorem markedFrom_iff (line gs : List Glyph) :
    MarkedFrom line gs ↔ ∀ front g, front ++ [g] <+: gs → g.Fits (lineAfter line front) := by
  induction gs generalizing line with
  | nil => simp [MarkedFrom]
  | cons g gs ih =>
    rw [MarkedFrom, ih]
    constructor
    · rintro ⟨hg, hr⟩ front x hx
      cases front with
      | nil =>
        obtain rfl : x = g := by simpa [List.cons_prefix_cons] using hx
        exact hg
      | cons y front =>
        rw [List.cons_append] at hx
        obtain ⟨rfl, hp⟩ := List.cons_prefix_cons.mp hx
        exact hr front x hp
    · intro h
      exact ⟨h [] g (by simp), fun front x hx => h (g :: front) x (by simpa using hx)⟩

instance (nodes : List Node) : Decidable (QuotesMarked nodes) :=
  decidable_of_iff _ (markedFrom_iff [] (glyphsOf nodes))

theorem markedFrom_append (line xs ys : List Glyph) :
    MarkedFrom line (xs ++ ys) ↔ MarkedFrom line xs ∧ MarkedFrom (lineAfter line xs) ys := by
  induction xs generalizing line with
  | nil => simp [MarkedFrom, lineAfter]
  | cons g xs ih => simp [MarkedFrom, lineAfter, ih, and_assoc]

theorem lineAfter_append (line xs ys : List Glyph) :
    lineAfter line (xs ++ ys) = lineAfter (lineAfter line xs) ys := List.foldl_append

/-- Whether a line is empty, or begins with a mark. -/
def LineIs (begun : Bool) (line : List Glyph) : Prop :=
  if begun then quoteMark <+: line else line = []

def Unmarked (line : List Glyph) : Prop := ∀ g ∈ line, g.part ≠ .mark

def ownGlyphs (s : List Char) : List Glyph := s.map (⟨·, .own, true⟩)

theorem own_fits_iff (c : Char) (line : List Glyph) :
    Glyph.Fits ⟨c, .own, true⟩ line ↔ (c ≠ '\n' → quoteMark <+: line) := by
  simp [Glyph.Fits]

/-- The text of a quote fits its line exactly as its characters say. -/
theorem markedFrom_own {begun : Bool} {line : List Glyph} (h : LineIs begun line)
    (s : List Char) : MarkedFrom line (ownGlyphs s) ↔ fitsLine begun s = true := by
  induction s generalizing begun line with
  | nil => cases begun <;> simp [ownGlyphs, MarkedFrom, fitsLine]
  | cons c s ih =>
    by_cases hc : c = '\n'
    · have hi := @ih false [] rfl
      subst hc
      cases begun <;> simpa [ownGlyphs, MarkedFrom, own_fits_iff, nextLine, fitsLine] using hi
    · cases begun with
      | false =>
        obtain rfl : line = [] := h
        simp [ownGlyphs, MarkedFrom, own_fits_iff, fitsLine, hc, quoteMark]
      | true =>
        have hm : quoteMark <+: line := h
        have hi := @ih true (line ++ [⟨c, .own, true⟩]) (hm.trans (List.prefix_append _ _))
        simpa [ownGlyphs, MarkedFrom, own_fits_iff, nextLine, fitsLine, hc, hm] using hi

/-- The line behind text of a quote that fits. -/
theorem lineIs_own {begun : Bool} {line : List Glyph} (h : LineIs begun line) {s : List Char}
    (hs : fitsLine begun s = true) :
    LineIs (begun && !s.contains '\n') (lineAfter line (ownGlyphs s)) := by
  induction s generalizing begun line with
  | nil => simpa [ownGlyphs, lineAfter] using h
  | cons c s ih =>
    by_cases hc : c = '\n'
    · subst hc
      have hn : fitsLine false s = true := by cases begun <;> simpa [fitsLine] using hs
      have hi := @ih false [] rfl hn
      simpa [ownGlyphs, lineAfter, nextLine] using hi
    · cases begun with
      | false => simp [fitsLine, hc] at hs
      | true =>
        have hm : quoteMark <+: line := h
        have hn : fitsLine true s = true := by simpa [fitsLine, hc] using hs
        have hi := @ih true (line ++ [⟨c, .own, true⟩]) (hm.trans (List.prefix_append _ _)) hn
        simpa [ownGlyphs, lineAfter, nextLine, hc, Ne.symm hc] using hi

/-- A mark fits an empty line, and no line that has begun with one. -/
theorem markedFrom_quoteMark {begun : Bool} {line : List Glyph} (h : LineIs begun line) :
    MarkedFrom line quoteMark ↔ begun = false := by
  cases begun with
  | false =>
    obtain rfl : line = [] := h
    decide
  | true =>
    have hm : quoteMark <+: line := h
    have hl := hm.length_le
    refine iff_of_false (fun hq => ?_) nofun
    have hf := (hq.1.1 rfl).length_le
    simp [quoteMark] at hl hf
    omega

/-- Where no mark is written and none stands on the line, text of quotes is out of place. -/
theorem markedFrom_unmarked {line gs : List Glyph} (hl : Unmarked line)
    (hg : ∀ g ∈ gs, g.part ≠ .mark) :
    (MarkedFrom line gs ↔ ∀ g ∈ gs, g.part = .own → g.quoted = true → g.char = '\n') ∧
      Unmarked (lineAfter line gs) := by
  induction gs generalizing line with
  | nil => exact ⟨by simp [MarkedFrom], hl⟩
  | cons g gs ih =>
    obtain ⟨hm, hg⟩ := List.forall_mem_cons.mp hg
    have hn : Unmarked (nextLine line g) := by
      unfold nextLine
      split
      · exact fun _ h => absurd h List.not_mem_nil
      · exact List.forall_mem_append.mpr ⟨hl, by simpa using hm⟩
    have hq : ¬quoteMark <+: line := fun h => hl ⟨'>', .mark, true⟩ (h.subset (by decide)) rfl
    obtain ⟨hi, hu⟩ := ih hn hg
    refine ⟨?_, hu⟩
    rw [MarkedFrom, List.forall_mem_cons, hi]
    refine and_congr_left fun _ => ?_
    simp only [Glyph.Fits, hm, false_implies, true_and, hq]
    grind

/-! ### Reading a paragraph of a quote -/

theorem inQuote_read (ctx : Context) {e : Event} (h : e.isInline = true) :
    (read ctx e).1.inQuote = ctx.inQuote := by
  cases e with
  | enter tag =>
    cases tag with
    | blockQuote => exact absurd h Bool.false_ne_true
    | _ => rfl
  | leave tag =>
    cases tag with
    | blockQuote => exact absurd h Bool.false_ne_true
    | _ => rfl
  | text s =>
    simp only [read]
    split <;> rfl
  | _ => rfl

theorem inQuote_inline (ctx : Context) {events : List Event}
    (h : events.all Event.isInline = true) : (ctx.after events).inQuote = ctx.inQuote := by
  induction events generalizing ctx with
  | nil => rfl
  | cons e rest ih =>
    obtain ⟨he, hr⟩ := Bool.and_eq_true_iff.mp h
    rw [Context.after, ih _ hr, inQuote_read ctx he]

theorem quoteDepth_inline (depth : Nat) {e : Event} (h : e.isInline = true) :
    quoteDepth depth e = depth := by
  cases e with
  | enter tag | leave tag =>
    cases tag with
    | blockQuote => exact absurd h Bool.false_ne_true
    | _ => rfl
  | _ => rfl

theorem glyphs_text {ctx : Context} {depth : Nat} (hq : ctx.inQuote = true) (hd : 0 < depth)
    (s : String) : glyphs ctx depth (.text s) = quoteMark ++ ownGlyphs s.toList := by
  simp [glyphs, marks, ownText, Event.isText, quoteMark, ownGlyphs, hq, hd]

theorem glyphs_own {ctx : Context} {depth : Nat} {e : Event} (hm : marks ctx e = [])
    (hd : 0 < depth) : glyphs ctx depth e = ownGlyphs (ownText e) := by
  simp [glyphs, hm, ownGlyphs, hd]

/-- What is seen inside a line of a quote, and the line behind it. -/
theorem markedFrom_inline {ctx : Context} {depth : Nat} {e : Event} (h : e.isInline = true)
    (hq : ctx.inQuote = true) (hd : 0 < depth) {begun : Bool} {line : List Glyph}
    (hl : LineIs begun line) :
    (MarkedFrom line (glyphs ctx depth e) ↔ eventFits begun e = true) ∧
      (eventFits begun e = true →
        LineIs (begunAfter begun e) (lineAfter line (glyphs ctx depth e))) := by
  have hown (s : List Char) : (MarkedFrom line (ownGlyphs s) ↔ fitsLine begun s = true) ∧
      (fitsLine begun s = true →
        LineIs (begun && !s.contains '\n') (lineAfter line (ownGlyphs s))) :=
    ⟨markedFrom_own hl s, fun hs => lineIs_own hl hs⟩
  cases e with
  | text s =>
    rw [glyphs_text hq hd, markedFrom_append, markedFrom_quoteMark hl, lineAfter_append]
    cases begun with
    | true => simp [eventFits, Event.isText]
    | false =>
      obtain rfl : line = [] := hl
      have hm : LineIs true (lineAfter [] quoteMark) := List.prefix_refl _
      simpa [eventFits, begunAfter, Event.isText, ownText, markedFrom_own hm] using
        fun hs => lineIs_own hm hs
  | code s | html s =>
    rw [glyphs_own rfl hd]
    simpa [eventFits, begunAfter, Event.isText] using hown _
  | softBreak | hardBreak =>
    simp [glyphs, marks, ownText, Event.isText, eventFits, begunAfter, fitsLine, hq, MarkedFrom,
      Glyph.Fits, lineAfter, nextLine, LineIs]
  | enter tag | leave tag =>
    cases tag with
    | emphasis | strong | link _ | image _ =>
      rw [glyphs_own rfl hd]
      simpa [eventFits, begunAfter, Event.isText] using hown _
    | _ => exact absurd h Bool.false_ne_true
  | rule => exact absurd h Bool.false_ne_true

/-- The lines of a paragraph of a quote are marked exactly if its events fit them. -/
theorem markedFrom_paragraph {ctx : Context} {depth : Nat} {events : List Event}
    (h : events.all Event.isInline = true) (hq : ctx.inQuote = true) (hd : 0 < depth)
    {begun : Bool} {line : List Glyph} (hl : LineIs begun line) :
    MarkedFrom line (glyphsFrom ctx depth events) ↔ eventsFit begun events = true := by
  induction events generalizing ctx begun line with
  | nil => simp [glyphsFrom, MarkedFrom, eventsFit]
  | cons e rest ih =>
    obtain ⟨he, hr⟩ := Bool.and_eq_true_iff.mp h
    obtain ⟨hm, hb⟩ := markedFrom_inline he hq hd hl
    rw [glyphsFrom, markedFrom_append, hm, eventsFit, Bool.and_eq_true_iff, quoteDepth_inline _ he]
    exact and_congr_right fun hf => ih hr (by rw [inQuote_read ctx he, hq]) (hb hf)

/-! ### Reading a document -/

/-- Whether characters are read as a condition says, to a line without a mark. -/
structure Reads (line gs : List Glyph) (fits : Bool) : Prop where
  marked : MarkedFrom line gs ↔ fits = true
  unmarked : Unmarked (lineAfter line gs)

theorem Reads.append {line xs ys : List Glyph} {a b : Bool} (hx : Reads line xs a)
    (hy : Reads (lineAfter line xs) ys b) : Reads line (xs ++ ys) (a && b) where
  marked := by rw [markedFrom_append, hx.marked, hy.marked, Bool.and_eq_true_iff]
  unmarked := by rw [lineAfter_append]; exact hy.unmarked

theorem glyphsFrom_append (ctx : Context) (depth : Nat) (xs ys : List Event) :
    glyphsFrom ctx depth (xs ++ ys) =
      glyphsFrom ctx depth xs ++ glyphsFrom (ctx.after xs) (xs.foldl quoteDepth depth) ys := by
  induction xs generalizing ctx depth with
  | nil => rfl
  | cons e xs ih => simp [glyphsFrom, Context.after, ih]

/-- Nodes leave as many quotes as they enter. -/
theorem quoteDepth_nodes (nodes : List Node) (depth : Nat) :
    (eventsOf nodes).foldl quoteDepth depth = depth := by
  induction nodes using Node.induct generalizing depth with
  | nil => rfl
  | element tag children rest ihc ihr =>
    rw [eventsOf_cons, Node.events, List.foldl_append, List.foldl_cons, List.foldl_append, ihc, ihr]
    cases tag <;> rfl
  | leaf n rest hn ih =>
    rw [eventsOf_cons, List.foldl_append, ih]
    cases n with
    | element tag children => exact absurd hn Bool.false_ne_true
    | _ => rfl

theorem quoteDepth_node (n : Node) (depth : Nat) : n.events.foldl quoteDepth depth = depth := by
  simpa using quoteDepth_nodes [n] depth

/-- What is seen of an element. -/
theorem glyphsFrom_element (ctx : Context) (depth : Nat) (tag : Tag) (children : List Node) :
    ∃ ctx', glyphsFrom ctx depth (Node.element tag children).events =
      glyphs ctx depth (.enter tag) ++
        (glyphsFrom (read ctx (.enter tag)).1 (quoteDepth depth (.enter tag)) (eventsOf children) ++
          glyphs ctx' (quoteDepth depth (.enter tag)) (.leave tag)) := by
  refine ⟨(read ctx (.enter tag)).1.after (eventsOf children), ?_⟩
  rw [Node.events, glyphsFrom, glyphsFrom_append, quoteDepth_nodes]
  simp [glyphsFrom]

/-- Outside of quotes the reader stays so. -/
theorem inQuote_outside (nodes : List Node) {ctx : Context} (h : ctx.inQuote = false) :
    (ctx.after (eventsOf nodes)).inQuote = false := by
  induction nodes using Node.induct generalizing ctx with
  | nil => exact h
  | element tag children rest ihc ihr =>
    rw [eventsOf_cons, after_append]
    refine ihr ?_
    rw [Node.events, Context.after, after_append, Context.after, Context.after]
    cases tag with
    | blockQuote => rfl
    | _ => exact ihc h
  | leaf n rest hn ih =>
    obtain ⟨begun, hb⟩ := after_leaf ctx hn
    rw [eventsOf_cons, after_append, hb]
    exact ih h

/-- Behind a quote no marks are written, also inside another quote. -/
theorem inQuote_node {n : Node} {quoted : Bool} (hn : n.hasPlainQuotes quoted = true)
    {ctx : Context} (hc : quoted = false → ctx.inQuote = false) :
    (ctx.after n.events).inQuote = (ctx.inQuote && !n.isQuote) := by
  cases quoted with
  | false =>
    have h := inQuote_outside [n] (hc rfl)
    rw [hc rfl]
    simpa using h
  | true =>
    cases n with
    | element tag children =>
      cases tag with
      | blockQuote =>
        rw [Node.events, Context.after, after_append]
        simp [Context.after, read, leave, popFace, Context.pop, Node.isQuote]
      | paragraph =>
        have hi : (eventsOf children).all Event.isInline = true := by
          simpa [Node.hasPlainQuotes] using hn
        rw [Node.events, Context.after, after_append]
        simpa [Context.after, read, enter, leave, Node.isQuote] using inQuote_inline ctx hi
      | _ => simp [Node.hasPlainQuotes] at hn
    | html s => simp [Node.events, Context.after, read, Node.isQuote]
    | _ => simp [Node.hasPlainQuotes] at hn

/-- Where no mark is written, an event is read well if nothing is seen of its text in a quote. -/
theorem reads_unmarked {ctx : Context} {depth : Nat} {e : Event} {line : List Glyph}
    (he : ctx.inQuote = false ∨ e.isText = false) (hl : Unmarked line) :
    Reads line (glyphs ctx depth e) (depth == 0 || isSilent e) := by
  have hg : ∀ g ∈ glyphs ctx depth e, g.part ≠ .mark := by
    intro g hg
    obtain hg | hg := List.mem_append.mp hg
    · obtain ⟨c, hc, rfl⟩ := List.mem_map.mp hg
      cases e with
      | text s => simp [marks, he.resolve_right (by simp [Event.isText])] at hc
      | _ => simp [Event.isText]
    · obtain ⟨c, -, rfl⟩ := List.mem_map.mp hg
      simp
  obtain ⟨hm, hu⟩ := markedFrom_unmarked hl hg
  refine ⟨hm.trans ?_, hu⟩
  have ho : (if e.isText = true then Part.mark else .layout) ≠ .own := by split <;> simp
  rw [glyphs, List.forall_mem_append, List.forall_mem_map, List.forall_mem_map]
  cases depth <;> simp [ho, isSilent]

/-- Where no mark is written, a paragraph is read well if nothing is seen of its text in a quote. -/
theorem reads_silent {ctx : Context} {depth : Nat} {events : List Event} {line : List Glyph}
    (h : events.all Event.isInline = true) (hq : ctx.inQuote = false) (hd : 0 < depth)
    (hl : Unmarked line) : Reads line (glyphsFrom ctx depth events) (events.all isSilent) := by
  induction events generalizing ctx line with
  | nil => exact ⟨by simp [glyphsFrom, MarkedFrom], hl⟩
  | cons e rest ih =>
    obtain ⟨he, hr⟩ := Bool.and_eq_true_iff.mp h
    have hs : Reads line (glyphs ctx depth e) (depth == 0 || isSilent e) :=
      reads_unmarked (.inl hq) hl
    rw [beq_false_of_ne (Nat.ne_of_gt hd), Bool.false_or] at hs
    rw [glyphsFrom, quoteDepth_inline _ he, List.all_cons]
    exact hs.append (ih hr (by rw [inQuote_read ctx he, hq]) hs.unmarked)

/-- The line feed at the end of a paragraph fits any line, and no line goes on behind it. -/
theorem reads_leave_paragraph (ctx : Context) (depth : Nat) (line : List Glyph) :
    Reads line (glyphs ctx depth (.leave .paragraph)) true where
  marked := by simp [glyphs, marks, ownText, Event.isText, MarkedFrom, Glyph.Fits]
  unmarked := by simp [glyphs, marks, ownText, lineAfter, nextLine, Unmarked]

theorem lineAfter_enter_paragraph (ctx : Context) (depth : Nat) (line : List Glyph) :
    lineAfter line (glyphs ctx depth (.enter .paragraph)) = [] := by
  simp only [glyphs, marks, ownText, lineAfter]
  cases ctx.inQuote && ctx.quoteBegun <;> simp [nextLine]

/-- A paragraph of a quote is read as its events say. -/
theorem reads_paragraph {ctx : Context} {depth : Nat} {children : List Node} {line : List Glyph}
    (h : (eventsOf children).all Event.isInline = true) (hd : 0 < depth) (hl : Unmarked line) :
    Reads line (glyphsFrom ctx depth (Node.element .paragraph children).events)
      (if ctx.inQuote then eventsFit false (eventsOf children)
        else (eventsOf children).all isSilent) := by
  obtain ⟨ctx', he⟩ := glyphsFrom_element ctx depth .paragraph children
  replace he : glyphsFrom ctx depth (Node.element .paragraph children).events =
      glyphs ctx depth (.enter .paragraph) ++
        (glyphsFrom ctx depth (eventsOf children) ++ glyphs ctx' depth (.leave .paragraph)) := he
  have hb : Reads line (glyphs ctx depth (.enter .paragraph)) (depth == 0 || true) :=
    reads_unmarked (.inr rfl) hl
  rw [Bool.or_true] at hb
  have hc : Reads (lineAfter line (glyphs ctx depth (.enter .paragraph)))
      (glyphsFrom ctx depth (eventsOf children) ++ glyphs ctx' depth (.leave .paragraph))
      (if ctx.inQuote then eventsFit false (eventsOf children)
        else (eventsOf children).all isSilent) := by
    cases hq : ctx.inQuote with
    | true =>
      have hn : LineIs false (lineAfter line (glyphs ctx depth (.enter .paragraph))) :=
        lineAfter_enter_paragraph ctx depth line
      refine ⟨?_, ?_⟩
      · rw [markedFrom_append, markedFrom_paragraph h hq hd hn]
        simp [(reads_leave_paragraph ctx' depth _).marked]
      · rw [lineAfter_append]
        exact (reads_leave_paragraph ctx' depth _).unmarked
    | false =>
      simpa using (reads_silent h hq hd hb.unmarked).append (reads_leave_paragraph ctx' depth _)
  rw [he]
  simpa using hb.append hc

/-- An element that writes no marks of its own is read as what is inside it. -/
theorem reads_element {ctx : Context} {depth : Nat} {tag : Tag} {children : List Node}
    {line : List Glyph} {fits : Bool} (hl : Unmarked line)
    (hc : ∀ line, Unmarked line → Reads line (glyphsFrom (read ctx (.enter tag)).1
      (quoteDepth depth (.enter tag)) (eventsOf children)) fits) :
    Reads line (glyphsFrom ctx depth (Node.element tag children).events) fits := by
  obtain ⟨ctx', he⟩ := glyphsFrom_element ctx depth tag children
  have hb : Reads line (glyphs ctx depth (.enter tag)) (depth == 0 || true) :=
    reads_unmarked (.inr rfl) hl
  have hi := hc _ hb.unmarked
  have hf : Reads _ (glyphs ctx' (quoteDepth depth (.enter tag)) (.leave tag))
      (quoteDepth depth (.enter tag) == 0 || true) := reads_unmarked (.inr rfl) hi.unmarked
  rw [he]
  simpa using hb.append (hi.append hf)

/-- Outside of quotes, an element that is none changes nothing for what is inside it. -/
theorem element_outside (ctx : Context) (depth : Nat) {tag : Tag} (children : List Node)
    (h : tag ≠ .blockQuote) :
    (read ctx (.enter tag)).1.inQuote = ctx.inQuote ∧ quoteDepth depth (.enter tag) = depth ∧
      (Node.element tag children).hasPlainQuotes false = havePlainQuotes false children ∧
      nodeFits false ctx.inQuote (.element tag children) = nodesFit false ctx.inQuote children := by
  cases tag with
  | blockQuote => exact absurd rfl h
  | _ => exact ⟨rfl, rfl, rfl, rfl⟩

theorem reads_leaf {n : Node} (h : n.isLeaf = true) {quoted : Bool}
    (hn : n.hasPlainQuotes quoted = true) {ctx : Context} {depth : Nat}
    (hd : quoted = decide (0 < depth)) (hc : quoted = false → ctx.inQuote = false)
    {line : List Glyph} (hl : Unmarked line) :
    Reads line (glyphsFrom ctx depth n.events) (nodeFits quoted ctx.inQuote n) := by
  obtain ⟨e, he, hen⟩ := n.events_leaf h
  have hg : glyphsFrom ctx depth n.events = glyphs ctx depth e := by simp [he, glyphsFrom]
  have ht : ctx.inQuote = false ∨ e.isText = false := by
    cases quoted with
    | false => exact .inl (hc rfl)
    | true =>
      cases e with
      | text s =>
        obtain rfl := Option.some.inj hen
        exact absurd hn Bool.false_ne_true
      | _ => exact .inr rfl
  have hf : nodeFits quoted ctx.inQuote n = (depth == 0 || isSilent e) := by
    cases n with
    | element tag children => exact absurd h Bool.false_ne_true
    | html s =>
      obtain rfl : Event.html s = e := List.singleton_inj.mp he
      subst hd
      cases depth <;> simp [nodeFits]
    | _ =>
      have hz : depth = 0 := by simpa [hd, Node.hasPlainQuotes] using hn
      simp [nodeFits, hz]
  rw [hg, hf]
  exact reads_unmarked ht hl

/-- A document is read as its nodes say. -/
theorem reads_nodes {nodes : List Node} {quoted : Bool} (hn : havePlainQuotes quoted nodes = true)
    {ctx : Context} {depth : Nat} (hd : quoted = decide (0 < depth))
    (hc : quoted = false → ctx.inQuote = false) {line : List Glyph} (hl : Unmarked line) :
    Reads line (glyphsFrom ctx depth (eventsOf nodes)) (nodesFit quoted ctx.inQuote nodes) := by
  induction nodes using Node.induct generalizing quoted ctx depth line with
  | nil => exact ⟨by simp [glyphsFrom, MarkedFrom, nodesFit], hl⟩
  | element tag children rest ihc ihr =>
    obtain ⟨he, hr⟩ := Bool.and_eq_true_iff.mp hn
    have hs : Reads line (glyphsFrom ctx depth (Node.element tag children).events)
        (nodeFits quoted ctx.inQuote (.element tag children)) := by
      by_cases ht : tag = .blockQuote
      · subst ht
        exact reads_element hl fun line hl => ihc he (by simp [quoteDepth]) nofun hl
      · cases quoted with
        | true =>
          obtain ⟨rfl, hi⟩ : tag = .paragraph ∧ (eventsOf children).all Event.isInline = true := by
            cases tag <;> simp_all [Node.hasPlainQuotes]
          exact reads_paragraph hi (of_decide_eq_true hd.symm) hl
        | false =>
          obtain ⟨hq, hdepth, hp, hf⟩ := element_outside ctx depth children ht
          refine reads_element hl fun line hl => ?_
          rw [hdepth, hf, ← hq]
          exact ihc (hp.symm.trans he) hd (fun h => hq.trans (hc h)) hl
    have hq := inQuote_node he hc
    rw [eventsOf_cons, glyphsFrom_append, quoteDepth_node, nodesFit, ← hq]
    exact hs.append (ihr hr hd (fun h => by rw [hq, hc h, Bool.false_and]) hs.unmarked)
  | leaf n rest hleaf ih =>
    obtain ⟨he, hr⟩ := Bool.and_eq_true_iff.mp hn
    have hq := inQuote_node he hc
    have hs := reads_leaf hleaf he hd hc hl
    rw [eventsOf_cons, glyphsFrom_append, quoteDepth_node, nodesFit, ← hq]
    exact hs.append (ih hr hd (fun h => by rw [hq, hc h, Bool.false_and]) hs.unmarked)

/-- What is seen of the markup of a document with plain quotes are the characters of the document, up
to white space at both ends, and the lines of its quotes are marked exactly if its nodes fit. -/
theorem quotesMarked_iff {nodes : List Node} (h : havePlainQuotes false nodes = true) :
    (¬EndsInLookalike (eventsOf nodes) →
      ∃ tokens, tokens? (ofEvents (eventsOf nodes)) = some tokens ∧
        Text.trim (tokens.flatMap Token.visible) = Text.trim ((glyphsOf nodes).map Glyph.char)) ∧
    (QuotesMarked nodes ↔ nodesFit false false nodes = true) := by
  refine ⟨fun hl => ?_, ?_⟩
  · obtain ⟨tokens, -, -, ht, -, -, -, hv⟩ := keepsText_of_not_endsInLookalike hl
    exact ⟨tokens, ht, by rw [hv, glyphsOf, char_glyphsFrom, layout]⟩
  · have hu : Unmarked [] := fun _ hg => absurd hg List.not_mem_nil
    rw [QuotesMarked, ← markedFrom_iff]
    exact (@reads_nodes nodes false h .start 0 (by simp) (fun _ => rfl) [] hu).marked

/-- Lines that begin with a text, one of them with code behind it, in a quote and in one inside it. -/
theorem quotes_with_code_marked :
    havePlainQuotes false (parse "> a\n> b \x60c\x60\n>\n> > *d*\n\ne") = true ∧
      QuotesMarked (parse "> a\n> b \x60c\x60\n>\n> > *d*\n\ne") := by
  have h : havePlainQuotes false (parse "> a\n> b \x60c\x60\n>\n> > *d*\n\ne") = true := by
    decide +kernel
  have hf : nodesFit false false (parse "> a\n> b \x60c\x60\n>\n> > *d*\n\ne") = true := by
    decide +kernel
  exact ⟨h, (quotesMarked_iff h).2.mpr hf⟩

/-- A mark stands inside the first line, and none before the lines of the other documents. -/
theorem quote_lines_mismarked :
    (havePlainQuotes false (parse "> a \x60b\x60 c") = true ∧
      ¬QuotesMarked (parse "> a \x60b\x60 c")) ∧
    (havePlainQuotes false (parse "> \x60a\x60") = true ∧ ¬QuotesMarked (parse "> \x60a\x60")) ∧
    (havePlainQuotes false (parse "> > a\n>\n> b") = true ∧
      ¬QuotesMarked (parse "> > a\n>\n> b")) := by
  have ha : eventsOf (parse "> a \x60b\x60 c") = eventsOf [.element .blockQuote
      [.element .paragraph [.text "a ", .code "b", .text " c"]]] := by decide +kernel
  have hb : eventsOf (parse "> \x60a\x60") = eventsOf [.element .blockQuote
      [.element .paragraph [.code "a"]]] := by decide +kernel
  have hc : eventsOf (parse "> > a\n>\n> b") = eventsOf [.element .blockQuote
      [.element .blockQuote [.element .paragraph [.text "a"]],
        .element .paragraph [.text "b"]]] := by decide +kernel
  refine ⟨⟨by decide +kernel, ?_⟩, ⟨by decide +kernel, ?_⟩, ⟨by decide +kernel, ?_⟩⟩
  · rw [eventsOf_inj ha]
    decide
  · rw [eventsOf_inj hb]
    decide
  · rw [eventsOf_inj hc]
    decide

end Markup

end EditorBridge
