import EditorBridge.Markup.Document
import EditorBridge.Proofs.MarkupReader
import EditorBridge.Proofs.TextTrim

/-!
Cutting markup at its ends. The tag of the default face at the end is looked for in the characters
of the markup, where a text that ends in the same characters has them too. What is left out is white
space and the tag, unless such a text ends the markup: then the brace of the text is left out, and
the backslash before it stays.
-/

namespace EditorBridge.Markup

def defaultTag : List Char := Face.default.name.toList

/-- The tokens of a text that looks like a tag. -/
def lookalike (inside : List Char) : List Token :=
  .escaped '\x7b' :: (inside ++ ['\x7d']).map .plain

/-- Whether no character has a meaning of its own in markup. -/
def IsTagText (s : List Char) : Prop := ∀ c ∈ s, c ≠ '\\' ∧ c ≠ '\x7b' ∧ c ≠ '\x7d'

instance (s : List Char) : Decidable (IsTagText s) := List.decidableBAll _ s

theorem isTagText_defaultTag : IsTagText defaultTag := by decide

section

variable {ts : List Token}

/-- The last character of markup tells what its last token is. -/
theorem last_token (h : ∀ t ∈ ts, t.IsRegular) {u : List Char} {c : Char}
    (he : ts.flatMap Token.written = u ++ [c]) :
    ∃ front t, ts = front ++ [t] ∧
      ((∃ inside, t = .tag inside ∧ c = '\x7d' ∧
          u = front.flatMap Token.written ++ '\x7b' :: inside) ∨
        (t = .escaped c ∧ (c = '\\' ∨ c = '\x7b') ∧ u = front.flatMap Token.written ++ ['\\']) ∨
        (t = .plain c ∧ c ≠ '\\' ∧ c ≠ '\x7b' ∧ u = front.flatMap Token.written)) := by
  obtain rfl | ⟨front, t, rfl⟩ := List.eq_nil_or_concat ts
  · simp at he
  · rw [List.concat_eq_append] at h he ⊢
    have ht : t.IsRegular := h t (by simp)
    rw [List.flatMap_append, List.flatMap_singleton] at he
    refine ⟨front, t, rfl, ?_⟩
    cases t with
    | tag inside =>
      rw [Token.written, tagOf, ← List.append_assoc, List.append_singleton_inj] at he
      exact .inl ⟨inside, rfl, he.2.symm, he.1.symm⟩
    | escaped d =>
      rw [Token.written, List.append_cons, List.append_singleton_inj] at he
      obtain ⟨hu, rfl⟩ := he
      exact .inr (.inl ⟨rfl, ht, hu.symm⟩)
    | plain d =>
      obtain ⟨hu, rfl⟩ := List.append_singleton_inj.mp he
      exact .inr (.inr ⟨rfl, ht.1, ht.2, hu.symm⟩)

/-- Markup that ends with characters without a meaning of their own ends with their tokens. -/
theorem eq_append_plain (h : ∀ t ∈ ts, t.IsRegular) {u s : List Char} (hs : IsTagText s)
    (he : ts.flatMap Token.written = u ++ s) :
    ∃ front, ts = front ++ s.map .plain ∧ u = front.flatMap Token.written := by
  induction s generalizing u with
  | nil => exact ⟨ts, by simp, by simpa using he.symm⟩
  | cons c s ih =>
    obtain ⟨hc, hs⟩ := List.forall_mem_cons.mp hs
    obtain ⟨front, rfl, hf⟩ := @ih (u ++ [c]) hs (by simpa using he)
    obtain ⟨front, t, rfl, ⟨_, -, rfl, -⟩ | ⟨-, hd, -⟩ | ⟨rfl, -, -, hu⟩⟩ :=
      last_token (fun t ht => h t (by simp [ht])) hf.symm
    · exact absurd rfl hc.2.2
    · exact (hd.elim hc.1 hc.2.1).elim
    · exact ⟨front, by simp, hu⟩

/-- What follows the last opening brace is the same if the whole is. -/
theorem last_brace_inj {u v s t : List Char} (hs : '\x7b' ∉ s) (ht : '\x7b' ∉ t)
    (h : u ++ '\x7b' :: s = v ++ '\x7b' :: t) : u = v ∧ s = t := by
  obtain ⟨x, rfl, hx⟩ | ⟨x, rfl, hx⟩ := List.append_eq_append_iff.mp h
  · cases x with
    | nil => simpa using hx
    | cons c x => exact absurd (by simp_all) hs
  · cases x with
    | nil => simpa [eq_comm] using hx
    | cons c x => exact absurd (by simp_all) ht

/-- Markup that ends in the characters of a tag ends with the tag or with a text like it. -/
theorem ends_in_tag (h : ∀ t ∈ ts, t.IsRegular) {u inside : List Char} (hi : IsTagText inside)
    (he : ts.flatMap Token.written = u ++ tagOf inside) :
    ∃ front, (ts = front ++ [.tag inside] ∧ u = front.flatMap Token.written) ∨
      (ts = front ++ lookalike inside ∧ u = front.flatMap Token.written ++ ['\\']) := by
  have hb : '\x7b' ∉ inside := fun hm => (hi _ hm).2.1 rfl
  rw [tagOf, ← List.append_assoc] at he
  obtain ⟨front, t, rfl, ⟨name, rfl, -, hu⟩ | ⟨-, hd, -⟩ | ⟨rfl, -, -, hu⟩⟩ := last_token h he
  · have ht : (Token.tag name).IsRegular := h _ (by simp)
    obtain ⟨rfl, rfl⟩ := last_brace_inj hb ht.1 hu
    exact ⟨front, .inl ⟨rfl, rfl⟩⟩
  · exact absurd hd (by decide)
  · have hf : ∀ t ∈ front, t.IsRegular := fun t ht => h t (by simp [ht])
    rw [List.append_cons] at hu
    obtain ⟨front, rfl, hv⟩ := eq_append_plain hf hi hu.symm
    obtain ⟨front, t, rfl, ⟨_, -, hd, -⟩ | ⟨rfl, -, hv⟩ | ⟨-, -, hd, -⟩⟩ :=
      last_token (fun t ht => hf t (by simp [ht])) hv.symm
    · exact absurd hd (by decide)
    · exact ⟨front, .inr ⟨by simp [lookalike], hv⟩⟩
    · exact absurd rfl hd

theorem trimmed_append (u : List Char) : trimmed (u ++ tagOf defaultTag) = Text.trim u := by
  simp [trimmed, defaultTag]

theorem trimmed_of_not_suffix {markup : List Char} (h : ¬tagOf defaultTag <:+ markup) :
    trimmed markup = Text.trim markup := by
  have hs : (tagOf defaultTag).isSuffixOf markup = false := by
    simpa [← List.isSuffixOf_iff_suffix] using h
  simp only [defaultTag] at hs
  simp [trimmed, hs]

/-- Leaving out white space at the ends of markup leaves out tokens. -/
theorem exists_trim_tokens (h : ∀ c, .escaped c ∈ ts → Text.isBlank c = false) :
    ∃ front mid back, ts = front ++ mid ++ back ∧ (∀ t ∈ front, t.isBlank) ∧
      (∀ t ∈ back, t.isBlank) ∧
      Text.trim (ts.flatMap Token.written) = mid.flatMap Token.written := by
  have hb : Text.isBlank '\x7b' = false ∧ Text.isBlank '\x7d' = false ∧
    Text.isBlank '\\' = false := by decide
  apply Text.exists_trim_flatMap
  · intro t _
    cases t with
    | tag inside => simp [Token.written, Token.isBlank, tagOf, hb]
    | escaped c => simp [Token.written, Token.isBlank, hb]
    | plain c => cases hc : Text.isBlank c <;> simp [Token.written, Token.isBlank, hc]
  · intro t ht
    cases t with
    | tag inside => simp [Token.written, Token.isBlank, tagOf, hb]
    | escaped c => simp [Token.written, Token.isBlank, h c ht]
    | plain c => cases hc : Text.isBlank c <;> simp [Token.written, Token.isBlank, hc]

theorem isBlank_of_isRegular {c : Char} (h : (Token.escaped c).IsRegular) :
    Text.isBlank c = false := by
  obtain rfl | rfl := h <;> decide

/-- What is left out at the end: white space, and behind it the tag of the default face. -/
def IsTail (back : List Token) : Prop :=
  ∃ blanks : List Token, (∀ t ∈ blanks, t.isBlank) ∧
    (back = blanks ∨ back = blanks ++ [.tag defaultTag])

/-- If no text that looks like a tag ends the markup, only white space and the tag are left out. -/
theorem trimmed_written (h : ∀ t ∈ ts, t.IsRegular) (hl : ¬lookalike defaultTag <:+ ts) :
    ∃ front mid back, ts = front ++ mid ++ back ∧ (∀ t ∈ front, t.isBlank) ∧ IsTail back ∧
      trimmed (ts.flatMap Token.written) = mid.flatMap Token.written := by
  by_cases hs : tagOf defaultTag <:+ ts.flatMap Token.written
  · obtain ⟨u, hu⟩ := hs
    obtain ⟨ts, ⟨rfl, rfl⟩ | ⟨rfl, -⟩⟩ := ends_in_tag h isTagText_defaultTag hu.symm
    · obtain ⟨front, mid, back, rfl, hf, hb, he⟩ :=
        @exists_trim_tokens ts fun c hc => isBlank_of_isRegular (h _ (by simp [hc]))
      exact ⟨front, mid, back ++ [.tag defaultTag], by simp, hf, ⟨back, hb, .inr rfl⟩,
        by rw [← hu, trimmed_append, he]⟩
    · exact absurd (List.suffix_append _ _) hl
  · obtain ⟨front, mid, back, rfl, hf, hb, he⟩ :=
      exists_trim_tokens fun c hc => isBlank_of_isRegular (h _ hc)
    exact ⟨front, mid, back, rfl, hf, ⟨back, hb, .inl rfl⟩, by rw [trimmed_of_not_suffix hs, he]⟩

/-- If a text that looks like the tag ends the markup, it is left out but for its backslash. -/
theorem trimmed_lookalike (h : ∀ t ∈ ts, t.IsRegular) :
    ∃ front mid, ts = front ++ mid ∧ (∀ t ∈ front, t.isBlank) ∧
      trimmed ((ts ++ lookalike defaultTag).flatMap Token.written) =
        mid.flatMap Token.written ++ ['\\'] := by
  have hw : (ts ++ lookalike defaultTag).flatMap Token.written =
      (ts ++ [Token.plain '\\']).flatMap Token.written ++ tagOf defaultTag := by
    simp [lookalike, Token.written, tagOf, List.flatMap_map]
  obtain ⟨front, mid, back, he, hf, hb, ht⟩ :=
    @exists_trim_tokens (ts ++ [.plain '\\']) fun c hc =>
      isBlank_of_isRegular (h _ (by simpa using hc))
  -- The backslash is no white space, so it is in the middle.
  have hn : (Token.plain '\\').isBlank = false := by decide
  obtain rfl | ⟨back, t, rfl⟩ := List.eq_nil_or_concat back
  · obtain rfl | ⟨mid, t, rfl⟩ := List.eq_nil_or_concat mid
    · have hm : .plain '\\' ∈ front := by
        rw [← List.append_nil front, ← List.append_nil (front ++ []), ← he]
        simp
      simp [hf _ hm] at hn
    · simp only [List.concat_eq_append, List.append_nil, ← List.append_assoc,
        List.append_singleton_inj] at he
      obtain ⟨rfl, rfl⟩ := he
      exact ⟨front, mid, rfl, hf, by rw [hw, trimmed_append, ht]; simp [Token.written]⟩
  · simp only [List.concat_eq_append, ← List.append_assoc, List.append_singleton_inj] at he
    obtain ⟨-, rfl⟩ := he
    simp [hb (.plain '\\') (by simp)] at hn

end

/-- The mark of an item needs no escapes. -/
theorem isRegular_itemMark (lists : List (Option Nat)) :
    (Span.sign (itemMark lists).1).IsRegular := by
  intro c hc
  match lists with
  | some number :: outer =>
    rcases List.mem_append.mp hc with hd | hd
    · have hg : c.isDigit = true := Nat.isDigit_of_mem_toDigits (by decide) (by decide) hd
      constructor <;> (rintro rfl; revert hg; decide)
    · simp at hd
      obtain rfl | rfl := hd <;> decide
  | [] | none :: outer =>
    simp [itemMark] at hc
    obtain rfl | rfl := hc <;> decide

/-- The signs that an event shows need no escapes. -/
theorem isRegular_read (ctx : Context) (event : Markdown.Event) :
    ∀ span ∈ (read ctx event).2, span.IsRegular := by
  cases event with
  | enter tag =>
    cases tag with
    | paragraph => simp only [read, enter]; split <;> simp [Span.IsRegular, newLine]
    | heading level =>
      have hs : (Span.sign (List.replicate level '#' ++ [' '])).IsRegular := by
        intro c hc
        obtain hc | hc := List.mem_append.mp hc
        · simp [List.eq_of_mem_replicate hc]
        · simp [List.mem_singleton.mp hc]
      simpa [read, enter, Span.IsRegular, newLine] using hs
    | item => simpa [read, enter, Span.IsRegular] using isRegular_itemMark ctx.lists
    | _ => simp [read, enter, Span.IsRegular, newLine]
  | leave tag => cases tag <;> simp [read, leave, popFace, Span.IsRegular, newLine]
  | text s => simp only [read]; split <;> simp [Span.IsRegular]
  | softBreak => simp only [read]; split <;> simp [Span.IsRegular, newLine]
  | _ => simp [read, Span.IsRegular, newLine]

theorem isRegular_spansFrom (ctx : Context) (events : List Markdown.Event) :
    ∀ span ∈ spansFrom ctx events, span.IsRegular := by
  induction events generalizing ctx with
  | nil => simp [spansFrom]
  | cons event rest ih =>
    intro span hs
    rcases List.mem_append.mp hs with hs | hs
    · exact isRegular_read ctx event span hs
    · exact ih _ span hs

def rendered (events : List Markdown.Event) : List Token := tokensOf (spansOf events)

theorem isRegular_rendered (events : List Markdown.Event) :
    ∀ t ∈ rendered events, t.IsRegular := isRegular_tokensOf (isRegular_spansFrom .start events)

theorem ofEvents_eq_trimmed (events : List Markdown.Event) :
    ofEvents events = trimmed ((rendered events).flatMap Token.written) := by
  rw [ofEvents, write_eq_tokensOf, rendered]

/-- Unless a text that looks like the tag ends a document, its markup is read as the tokens that
were written without white space at both ends and the tag at the end. -/
theorem tokens_ofEvents {events : List Markdown.Event}
    (h : ¬lookalike defaultTag <:+ rendered events) :
    ∃ front mid back, rendered events = front ++ mid ++ back ∧ (∀ t ∈ front, t.isBlank) ∧
      IsTail back ∧ tokens? (ofEvents events) = some mid := by
  obtain ⟨front, mid, back, he, hf, hb, ht⟩ := trimmed_written (isRegular_rendered events) h
  refine ⟨front, mid, back, he, hf, hb, ?_⟩
  rw [ofEvents_eq_trimmed, ht, tokens_flatMap]
  exact fun t hm => isRegular_rendered events t (by simp [he, hm])

/-- If a text that looks like the tag ends a document, only its backslash is left of it. -/
theorem tokens_ofEvents_lookalike {events : List Markdown.Event} {body : List Token}
    (h : rendered events = body ++ lookalike defaultTag) :
    ∃ front mid, body = front ++ mid ∧ (∀ t ∈ front, t.isBlank) ∧
      tokens? (ofEvents events) = some (mid ++ [.plain '\\']) := by
  have hr : ∀ t ∈ body, t.IsRegular := fun t ht => isRegular_rendered events t (by simp [h, ht])
  obtain ⟨front, mid, rfl, hf, ht⟩ := trimmed_lookalike hr
  refine ⟨front, mid, rfl, hf, ?_⟩
  rw [ofEvents_eq_trimmed, h, ht, tokens?, tokensFrom_flatMap _ _ fun t hm => hr t (by simp [hm])]
  simp [tokensFrom]

end EditorBridge.Markup
