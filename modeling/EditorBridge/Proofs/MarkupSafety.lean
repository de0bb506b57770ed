import EditorBridge.Proofs.MarkupCut

/-!
Face tags in the markup of documents. The tags that are read are the ones that were written, in the
same order; all of them name a face of the renderer, or add a stress to the face of the text around
them. No text of a document is read as a part of a tag.
-/

namespace EditorBridge.Markup

open Markdown

/-- What may stand in a tag where the text around it has a face. -/
def IsOwnTag (base : Face) (inside : List Char) : Prop :=
  inside ∈ ["InfoDefault", "InfoBlockQuote", "InfoBlock", "InfoHeader", "InfoLink", "InfoLinkMono",
    "InfoMono", "InfoBullet", "InfoRule"].map String.toList ∨
  inside = "+i@".toList ++ base.name.toList ∨ inside = "+b@".toList ++ base.name.toList

/-- The tags that events show, read in a context, each with the face of the text around it. -/
def tagsFrom (ctx : Context) : List Event → List (Face × List Char)
  | [] => []
  | event :: rest =>
    ((read ctx event).2.filterMap Span.inside?).map (ctx.face, ·) ++
      tagsFrom (read ctx event).1 rest

def tagsOf (events : List Event) : List (Face × List Char) := tagsFrom .start events

theorem isOwnTag_name (base f : Face) : IsOwnTag base f.name.toList :=
  .inl (List.mem_map_of_mem (by cases f <;> decide))

/-- A stress is added to the face of the text around it. -/
theorem face_of_stressed_mem_read {ctx : Context} {event : Event} {stress : Stress} {f : Face}
    (h : .stressed stress f ∈ (read ctx event).2) : f = ctx.face := by
  cases event with
  | enter tag =>
    cases tag with
    | paragraph => simp only [read, enter] at h; split at h <;> simp [newLine] at h
    | emphasis => simp_all [read, enter]
    | strong => simp_all [read, enter]
    | _ => simp [read, enter, newLine] at h
  | leave tag =>
    cases tag with
    | list start => simp only [read, leave] at h; split at h <;> simp [newLine] at h
    | _ => simp [read, leave, popFace, newLine] at h
  | text s => simp only [read] at h; split at h <;> simp at h
  | softBreak => simp only [read] at h; split at h <;> simp [newLine] at h
  | _ => simp [read, newLine] at h

theorem isOwnTag_of_mem_read {ctx : Context} {event : Event} {span : Span} {inside : List Char}
    (h : span ∈ (read ctx event).2) (hi : span.inside? = some inside) :
    IsOwnTag ctx.face inside := by
  cases span with
  | face f =>
    obtain rfl : f.name.toList = inside := by simpa [Span.inside?] using hi
    exact isOwnTag_name ctx.face f
  | stressed stress f =>
    obtain rfl := face_of_stressed_mem_read h
    obtain rfl : '+' :: stress.letter :: '@' :: ctx.face.name.toList = inside := by
      simpa [Span.inside?] using hi
    cases stress with
    | italic => exact .inr (.inl rfl)
    | bold => exact .inr (.inr rfl)
  | sign s => simp [Span.inside?] at hi
  | text s => simp [Span.inside?] at hi

theorem isOwnTag_tagsFrom (ctx : Context) (events : List Event) :
    ∀ tag ∈ tagsFrom ctx events, IsOwnTag tag.1 tag.2 := by
  induction events generalizing ctx with
  | nil => simp [tagsFrom]
  | cons event rest ih =>
    intro tag ht
    obtain ht | ht := List.mem_append.mp ht
    · obtain ⟨inside, hi, rfl⟩ := List.mem_map.mp ht
      obtain ⟨span, hs, hi⟩ := List.mem_filterMap.mp hi
      exact isOwnTag_of_mem_read hs hi
    · exact ih _ tag ht

theorem filterMap_tokens (span : Span) :
    span.tokens.filterMap Token.inside? = span.inside?.toList := by
  cases span with
  | face f => rfl
  | stressed stress f => rfl
  | sign s => simp [Span.tokens, Span.inside?, List.filterMap_map, Function.comp_def, Token.inside?]
  | text s => simp [Span.tokens, Span.inside?, List.filterMap_map, inside_ofChar]

theorem filterMap_tokensOf (spans : List Span) :
    (tokensOf spans).filterMap Token.inside? = spans.filterMap Span.inside? := by
  induction spans with
  | nil => rfl
  | cons span spans ih =>
    have he : tokensOf (span :: spans) = span.tokens ++ tokensOf spans := rfl
    rw [he, List.filterMap_append, filterMap_tokens, ih]
    cases hi : span.inside? <;> simp [hi]

/-- The tags that are written are the ones that events show. -/
theorem inside_spansFrom (ctx : Context) (events : List Event) :
    (spansFrom ctx events).filterMap Span.inside? = (tagsFrom ctx events).map Prod.snd := by
  induction events generalizing ctx with
  | nil => rfl
  | cons event rest ih => simp [spansFrom, tagsFrom, ih, Function.comp_def]

theorem inside_rendered (events : List Event) :
    (rendered events).filterMap Token.inside? = (tagsOf events).map Prod.snd := by
  rw [rendered, filterMap_tokensOf, spansOf, inside_spansFrom, tagsOf]

/-- A token that is white space is no tag. -/
theorem inside_of_isBlank {ts : List Token} (h : ∀ t ∈ ts, t.isBlank) :
    ts.filterMap Token.inside? = [] := by
  rw [List.filterMap_eq_nil_iff]
  intro t ht
  obtain ⟨c, rfl, -⟩ := Token.eq_plain_of_isBlank (h t ht)
  rfl

theorem labelled_of_isBlank {ts : List Token} (h : ∀ t ∈ ts, t.isBlank) :
    ∀ x ∈ ts.flatMap Token.labelled, Text.isBlank x.1 := by
  intro x hx
  obtain ⟨t, ht, hx⟩ := List.mem_flatMap.mp hx
  obtain ⟨c, rfl, hb⟩ := Token.eq_plain_of_isBlank (h t ht)
  obtain rfl : x = (c, none) := by simpa [Token.labelled, Token.written, Token.inside?] using hx
  exact hb

theorem labelled_map_plain (s : List Char) :
    (s.map Token.plain).flatMap Token.labelled = s.map (·, none) := by
  induction s with
  | nil => rfl
  | cons c s ih => simpa [Token.labelled, Token.written, Token.inside?] using ih

theorem labelled_lookalike (inside : List Char) :
    (lookalike inside).flatMap Token.labelled =
      ('\\' :: tagOf inside).map fun c => (c, (none : Option (List Char))) := by
  rw [lookalike, List.flatMap_cons, labelled_map_plain]
  simp [Token.labelled, Token.written, Token.inside?, tagOf]

/-- What is read in the markup of events follows white space in what was written. -/
theorem exists_tokens (events : List Event) :
    ∃ (tokens front : List Token) (back : List (Char × Option (List Char))),
      tokens? (ofEvents events) = some tokens ∧ (∀ t ∈ front, t.isBlank) ∧
      (rendered events).flatMap Token.labelled =
        front.flatMap Token.labelled ++ tokens.flatMap Token.labelled ++ back ∧
      tokens.filterMap Token.inside? <+: (rendered events).filterMap Token.inside? := by
  by_cases h : lookalike defaultTag <:+ rendered events
  · obtain ⟨body, hb⟩ := h
    obtain ⟨front, mid, rfl, hf, ht⟩ := tokens_ofEvents_lookalike hb.symm
    have hp : [Token.plain '\\'].flatMap Token.labelled = [('\\', none)] := rfl
    refine ⟨_, front, (tagOf defaultTag).map (·, none), ht, hf, ?_, ?_⟩
    · simp [← hb, labelled_lookalike, hp]
    · have hn : [Token.plain '\\'].filterMap Token.inside? = [] := rfl
      simp [← hb, inside_of_isBlank hf, hn]
  · obtain ⟨front, mid, back, he, hf, -, ht⟩ := tokens_ofEvents h
    exact ⟨mid, front, back.flatMap Token.labelled, ht, hf, by simp [he],
      by simp [he, inside_of_isBlank hf]⟩

/-- The markup of events is read whole. Every character of it is a part of the tag that it was
written as a part of, and a character of the text of none; and every tag is one that was written,
in its place. -/
theorem ofEvents_tags_are_own (events : List Event) :
    ∃ tokens, tokens? (ofEvents events) = some tokens ∧
      tokens.flatMap Token.written = ofEvents events ∧
      (∃ before after, (spansOf events).flatMap Span.labelled =
          before ++ tokens.flatMap Token.labelled ++ after ∧
        ∀ x ∈ before, Text.isBlank x.1) ∧
      tokens.filterMap Token.inside? <+: (tagsOf events).map Prod.snd ∧
      ∀ tag ∈ tagsOf events, IsOwnTag tag.1 tag.2 := by
  obtain ⟨tokens, front, back, ht, hf, hl, hi⟩ := exists_tokens events
  refine ⟨tokens, ht, written_tokens ht, ⟨front.flatMap Token.labelled, back, ?_, ?_⟩, ?_, ?_⟩
  · rw [← hl, rendered, labelled_tokensOf]
  · exact labelled_of_isBlank hf
  · rwa [← inside_rendered]
  · exact isOwnTag_tagsFrom .start events

end EditorBridge.Markup
