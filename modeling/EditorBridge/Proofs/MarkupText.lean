import EditorBridge.Proofs.MarkupCut

/-!
The text of documents in markup. What is seen of the markup is the text of the document with the
marks of its structure, up to white space at both ends. The one exception is a document that ends
in a text that looks like the tag of the default face: there the tag that is looked for at the end
is found in the text.
-/

namespace EditorBridge.Markup

open Markdown

def ownText : Event → List Char
  | .text s => s.toList
  | .code s => s.toList
  | .html s => s.toList
  | _ => []

/-- The marks that show the structure of a document at an event, before its text. -/
def marks (ctx : Context) : Event → List Char
  | .enter .paragraph => if ctx.inQuote && ctx.quoteBegun then ['>', '\n'] else ['\n']
  | .enter (.heading level) => '\n' :: (List.replicate level '#' ++ [' '])
  | .enter (.codeBlock _) => ['\n']
  | .enter .item => '\n' :: (List.replicate (2 * ctx.lists.length) ' ' ++ (itemMark ctx.lists).1)
  | .leave .paragraph => ['\n']
  | .leave (.heading _) => ['\n']
  | .leave (.list _) => if ctx.lists.tail.isEmpty then ['\n'] else []
  | .text _ => if ctx.inQuote then ['>', ' '] else []
  | .softBreak => if ctx.inQuote || ctx.inCode then ['\n'] else [' ']
  | .hardBreak => ['\n']
  | .rule => ['\n', '-', '-', '-', '\n']
  | _ => []

def layoutFrom (ctx : Context) : List Event → List Char
  | [] => []
  | event :: rest => marks ctx event ++ ownText event ++ layoutFrom (read ctx event).1 rest

def layout (events : List Event) : List Char := layoutFrom .start events

/-- What is seen of an event are its marks and its text. -/
theorem visible_read (ctx : Context) (event : Event) :
    (read ctx event).2.flatMap Span.visible = marks ctx event ++ ownText event := by
  cases event with
  | enter tag =>
    cases tag with
    | paragraph =>
      simp only [read, enter, marks, ownText]
      split <;> simp [newLine, Span.visible]
    | _ => simp [read, enter, marks, ownText, newLine, Span.visible]
  | leave tag =>
    cases tag with
    | list start =>
      simp only [read, leave, marks, ownText]
      split <;> simp [newLine, Span.visible]
    | _ => simp [read, leave, popFace, marks, ownText, newLine, Span.visible]
  | text s =>
    simp only [read, marks, ownText]
    split <;> simp [Span.visible]
  | softBreak =>
    simp only [read, marks, ownText]
    split <;> simp [newLine, Span.visible]
  | _ => simp [read, marks, ownText, newLine, Span.visible]

theorem visible_spansFrom (ctx : Context) (events : List Event) :
    (spansFrom ctx events).flatMap Span.visible = layoutFrom ctx events := by
  induction events generalizing ctx with
  | nil => rfl
  | cons event rest ih =>
    simp only [spansFrom, layoutFrom, List.flatMap_append, visible_read, ih]

/-- What is seen of the tokens that are written is the text of the events with their marks. -/
theorem visible_rendered (events : List Event) :
    (rendered events).flatMap Token.visible = layout events := by
  rw [rendered, visible_tokensOf, spansOf, visible_spansFrom, layout]

/-- Whether the markup of events is read as what was written without white space at both ends and
the tag of the default face at the end, so that all text is seen. -/
def KeepsText (events : List Event) : Prop :=
  ∃ tokens front back, tokens? (ofEvents events) = some tokens ∧
    rendered events = front ++ tokens ++ back ∧ (∀ t ∈ front, t.isBlank) ∧ IsTail back ∧
    Text.trim (tokens.flatMap Token.visible) = Text.trim (layout events)

/-- Whether a text that looks like the tag of the default face is the last thing that is written
for events. -/
def EndsInLookalike (events : List Event) : Prop := lookalike defaultTag <:+ rendered events

theorem visible_of_isBlank {ts : List Token} (h : ∀ t ∈ ts, t.isBlank) :
    ∀ c ∈ ts.flatMap Token.visible, Text.isBlank c := by
  intro c hc
  obtain ⟨t, ht, hc⟩ := List.mem_flatMap.mp hc
  obtain ⟨d, rfl, hb⟩ := Token.eq_plain_of_isBlank (h t ht)
  obtain rfl : c = d := by simpa [Token.visible] using hc
  exact hb

/-- Only white space is seen of what is left out at the end. -/
theorem IsTail.visible {back : List Token} (h : IsTail back) :
    ∀ c ∈ back.flatMap Token.visible, Text.isBlank c := by
  obtain ⟨blanks, hb, rfl | rfl⟩ := h
  · exact visible_of_isBlank hb
  · simpa [Token.visible] using visible_of_isBlank hb

theorem keepsText_of_not_endsInLookalike {events : List Event} (h : ¬EndsInLookalike events) :
    KeepsText events := by
  obtain ⟨front, mid, back, he, hf, hb, ht⟩ := tokens_ofEvents h
  refine ⟨mid, front, back, ht, he, hf, hb, ?_⟩
  rw [← visible_rendered, he, List.flatMap_append, List.flatMap_append,
    Text.trim_append _ (visible_of_isBlank hf) hb.visible]

/-- The text ends in a closing brace, and what is seen of the markup in a backslash. -/
theorem not_keepsText_of_endsInLookalike {events : List Event} (h : EndsInLookalike events) :
    ¬KeepsText events := by
  obtain ⟨body, hb⟩ := h
  obtain ⟨front, mid, rfl, -, hm⟩ := tokens_ofEvents_lookalike hb.symm
  rintro ⟨tokens, -, -, ht, -, -, -, hv⟩
  obtain rfl : mid ++ [.plain '\\'] = tokens := by simpa [hm] using ht
  have hl : layout events =
      (front ++ mid).flatMap Token.visible ++ '\x7b' :: defaultTag ++ ['\x7d'] := by
    rw [← visible_rendered, ← hb]
    simp [lookalike, Token.visible, List.flatMap_map]
  obtain ⟨s, hs⟩ := Text.trim_concat (mid.flatMap Token.visible) '\\' (by decide)
  obtain ⟨t, he⟩ := Text.trim_concat ((front ++ mid).flatMap Token.visible ++ '\x7b' :: defaultTag)
    '\x7d' (by decide)
  rw [hl, he, List.flatMap_append, List.flatMap_singleton, Token.visible, hs,
    List.append_singleton_inj] at hv
  exact absurd hv.2 (by decide)

/-- The markup of events keeps their text unless a text that looks like the tag of the default face
is the last thing that is written. -/
theorem keepsText_iff (events : List Event) : KeepsText events ↔ ¬EndsInLookalike events :=
  ⟨fun h he => not_keepsText_of_endsInLookalike he h, keepsText_of_not_endsInLookalike⟩

def Context.after (ctx : Context) : List Event → Context
  | [] => ctx
  | event :: rest => (read ctx event).1.after rest

theorem spansFrom_append (ctx : Context) (xs ys : List Event) :
    spansFrom ctx (xs ++ ys) = spansFrom ctx xs ++ spansFrom (ctx.after xs) ys := by
  induction xs generalizing ctx with
  | nil => rfl
  | cons event rest ih => simp [spansFrom, Context.after, ih]

/-- HTML shows nothing behind its text, so it may be the last thing that is written. -/
theorem endsInLookalike_html (events : List Event) (s : String) :
    EndsInLookalike (events ++ [.html (s ++ "\x7bInfoDefault\x7d")]) := by
  have ht : "\x7bInfoDefault\x7d".toList.map Token.ofChar = lookalike defaultTag := by decide
  rw [EndsInLookalike, rendered, spansOf, spansFrom_append]
  refine ⟨tokensOf (spansFrom .start events) ++ s.toList.map Token.ofChar, ?_⟩
  simp [tokensOf, spansFrom, read, Span.tokens, ← ht]

/-- A block of HTML at the end of a document has no line feed if the document has none there. -/
theorem html_block_loses_text : ¬KeepsText (eventsOf (parse "<div>\x7bInfoDefault\x7d")) := by
  have he : eventsOf (parse "<div>\x7bInfoDefault\x7d") = [.html "<div>\x7bInfoDefault\x7d"] := by
    decide +kernel
  rw [he]
  exact not_keepsText_of_endsInLookalike (endsInLookalike_html [] "<div>")

end EditorBridge.Markup
