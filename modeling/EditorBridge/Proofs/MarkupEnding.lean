import EditorBridge.Proofs.ListMarkers
import EditorBridge.Proofs.MarkupSafety

/-!
How the markup of a document ends. White space at the end is left out, and so is the tag of the
default face if nothing stands behind it. White space that has any other tag behind it stays, and is
the last thing that is seen. Whether there is some is told by the nodes of a document, read from the
last to the first.
-/

namespace EditorBridge

namespace Markup

open Markdown

/-! ### Markup read from its end -/

/-- What stands behind a place in markup. -/
inductive Ending where
  | nothing
  /-- White space and the last tag, which are left out. -/
  | cut
  /-- A tag that stays. -/
  | face
  /-- White space before a tag that stays. It is left out if nothing stands before it. -/
  | gap
  /-- The last character that is seen is no white space. -/
  | solid
  /-- The last character that is seen is white space. -/
  | space
  deriving DecidableEq, Repr

namespace Ending

def tag : Ending → Ending
  | nothing => cut
  | cut => face
  | gap => space
  | e => e

/-- What stands behind the place before white space. -/
def blank : Ending → Ending
  | nothing => cut
  | face => gap
  | e => e

/-- What stands behind the place before a character that is no white space. -/
def sign : Ending → Ending
  | gap => space
  | space => space
  | _ => solid

def char (c : Char) (e : Ending) : Ending := if Text.isBlank c then e.blank else e.sign

def chars (s : List Char) (e : Ending) : Ending := s.foldr char e

def IsKnown (e : Ending) : Prop := e = solid ∨ e = space

section

variable (e : Ending)

@[simp] theorem chars_nil : e.chars [] = e := rfl

@[simp] theorem chars_cons (c : Char) (s : List Char) :
    e.chars (c :: s) = (e.chars s).char c := List.foldr_cons ..

@[simp] theorem char_newLine : e.char '\n' = e.blank := if_pos (by decide)

@[simp] theorem char_greater : e.char '>' = e.sign := if_neg (by decide)

@[simp] theorem char_hyphen : e.char '-' = e.sign := if_neg (by decide)

@[simp] theorem char_dot : e.char '.' = e.sign := if_neg (by decide)

@[simp] theorem char_space : e.char ' ' = e.blank := if_pos (by decide)

@[simp] theorem sign_sign : e.sign.sign = e.sign := by cases e <;> rfl

@[simp] theorem blank_sign : e.sign.blank = e.sign := by cases e <;> rfl

@[simp] theorem tag_sign : e.sign.tag = e.sign := by cases e <;> rfl

/-- Nothing that stands before a sign makes a difference. -/
@[simp] theorem chars_sign (s : List Char) : e.sign.chars s = e.sign := by
  induction s with
  | nil => rfl
  | cons c s ih =>
    rw [chars_cons, ih, char]
    split <;> simp

theorem chars_append (xs ys : List Char) : e.chars (xs ++ ys) = (e.chars ys).chars xs :=
  List.foldr_append

end

end Ending

def Token.ending (e : Ending) : Token → Ending
  | tag _ => e.tag
  | escaped c => e.char c
  | plain c => e.char c

def endingOf (ts : List Token) (e : Ending) : Ending := ts.foldr (fun t e => t.ending e) e

section

variable {ts : List Token} {e : Ending}

@[simp] theorem endingOf_nil (e : Ending) : endingOf [] e = e := rfl

@[simp] theorem endingOf_cons (t : Token) (ts : List Token) (e : Ending) :
    endingOf (t :: ts) e = t.ending (endingOf ts e) := rfl

@[simp] theorem endingOf_append (xs ys : List Token) (e : Ending) :
    endingOf (xs ++ ys) e = endingOf xs (endingOf ys e) := List.foldr_append

/-- A token is a tag, white space, or a character that is none. -/
theorem Token.ending_cases (t : Token) (h : t.IsRegular) :
    t.visible = [] ∧ t.isBlank = false ∧ (∃ inside, t = tag inside) ∧
        (∀ e, t.ending e = e.tag) ∨
      (∃ c, t.visible = [c] ∧ Text.isBlank c = true) ∧ t.isBlank = true ∧
        (∀ e, t.ending e = e.blank) ∨
      (∃ c, t.visible = [c] ∧ Text.isBlank c = false) ∧ t.isBlank = false ∧
        (∀ e, t.ending e = e.sign) := by
  cases t with
  | tag inside => exact .inl ⟨rfl, rfl, ⟨inside, rfl⟩, fun _ => rfl⟩
  | escaped c =>
    have hc := isBlank_of_isRegular h
    exact .inr (.inr ⟨⟨c, rfl, hc⟩, rfl, fun e => by simp [ending, Ending.char, hc]⟩)
  | plain c =>
    cases hc : Text.isBlank c with
    | true => exact .inr (.inl ⟨⟨c, rfl, hc⟩, hc, fun e => by simp [ending, Ending.char, hc]⟩)
    | false => exact .inr (.inr ⟨⟨c, rfl, hc⟩, hc, fun e => by simp [ending, Ending.char, hc]⟩)

/-- Once it is known how the markup ends, nothing that stands before makes a difference. -/
theorem endingOf_known (h : e.IsKnown) (ts : List Token) : endingOf ts e = e := by
  induction ts with
  | nil => rfl
  | cons t ts ih =>
    rw [endingOf_cons, ih]
    obtain rfl | rfl := h <;> cases t <;>
      simp [Token.ending, Ending.tag, Ending.char, Ending.blank, Ending.sign]

theorem Token.ending_of_isBlank {t : Token} (h : t.isBlank) (e : Ending) :
    t.ending e = e.blank := by
  obtain ⟨c, rfl, hc⟩ := eq_plain_of_isBlank h
  simp [ending, Ending.char, hc]

/-- More white space makes no difference behind the first. -/
theorem endingOf_blanks (h : ∀ t ∈ ts, t.isBlank) (he : e.blank = e) : endingOf ts e = e := by
  induction ts with
  | nil => rfl
  | cons t ts ih =>
    obtain ⟨ht, hts⟩ := List.forall_mem_cons.mp h
    rw [endingOf_cons, ih hts, Token.ending_of_isBlank ht, he]

/-- Before a tag that stays, white space stays if anything else stands before it. -/
theorem endingOf_gap (h : ∀ t ∈ ts, t.IsRegular) (hb : ∃ t ∈ ts, t.isBlank = false) :
    endingOf ts .gap = .space := by
  induction ts using List.reverseRecOn with
  | nil => simp at hb
  | append_singleton ts t ih =>
    obtain ⟨hts, ht⟩ := List.forall_mem_append.mp h
    rw [endingOf_append, endingOf_cons, endingOf_nil]
    obtain ⟨-, -, -, he⟩ | ⟨-, hbt, he⟩ | ⟨-, -, he⟩ := t.ending_cases (ht t List.mem_cons_self)
    · rw [he]
      exact endingOf_known (.inr rfl) ts
    · rw [he]
      refine ih hts ?_
      obtain ⟨u, hu, hn⟩ := hb
      obtain hu | hu := List.mem_append.mp hu
      · exact ⟨u, hu, hn⟩
      · obtain rfl := List.mem_singleton.mp hu
        exact absurd (hn.symm.trans hbt) Bool.false_ne_true
    · rw [he]
      exact endingOf_known (.inr rfl) ts

/-- How markup ends whose last tag stays, and that does not begin with white space: as the text that
is seen of it does. -/
theorem endingOf_face (h : ∀ t ∈ ts, t.IsRegular) (hf : ∀ t ∈ ts.head?, t.isBlank = false) :
    match (ts.flatMap Token.visible).getLast? with
    | none => endingOf ts .face = .face
    | some c => endingOf ts .face = if Text.isBlank c then .space else .solid := by
  induction ts using List.reverseRecOn with
  | nil => rfl
  | append_singleton ts t ih =>
    obtain ⟨hts, ht⟩ := List.forall_mem_append.mp h
    have hfs : ∀ u ∈ ts.head?, u.isBlank = false := by
      intro u hu
      exact hf u (by simp [List.head?_append, Option.mem_def.mp hu])
    rw [endingOf_append, endingOf_cons, endingOf_nil, List.flatMap_append, List.flatMap_singleton]
    obtain ⟨hv, -, -, he⟩ | ⟨⟨c, hv, hc⟩, hb, he⟩ | ⟨⟨c, hv, hc⟩, -, he⟩ :=
      t.ending_cases (ht t List.mem_cons_self)
    · rw [hv, he, List.append_nil]
      exact ih hts hfs
    · rw [hv, he, List.getLast?_concat]
      simp only [hc, if_true]
      cases ts with
      | nil => exact absurd (hf t rfl) (by simp [hb])
      | cons u rest => exact endingOf_gap hts ⟨u, List.mem_cons_self, hfs u rfl⟩
    · rw [hv, he, List.getLast?_concat]
      simp only [hc, Bool.false_eq_true, if_false]
      exact endingOf_known (.inl rfl) ts

/-- Markup without white space at its ends is read as the tokens without white space at theirs. -/
theorem tokens_trim (h : ∀ t ∈ ts, t.IsRegular) :
    ∃ front mid back, ts = front ++ mid ++ back ∧ (∀ t ∈ front, t.isBlank) ∧
      (∀ t ∈ back, t.isBlank) ∧ tokens? (Text.trim (ts.flatMap Token.written)) = some mid ∧
      (∀ t ∈ mid.head?, t.isBlank = false) ∧ ∀ t ∈ mid.getLast?, t.isBlank = false := by
  obtain ⟨front, mid, back, rfl, hf, hb, he⟩ :=
    exists_trim_tokens fun c hc => isBlank_of_isRegular (h _ hc)
  refine ⟨front, mid, back, rfl, hf, hb, ?_, ?_, ?_⟩
  · rw [he, tokens_flatMap mid fun t ht => h t (by simp [ht])]
  · intro t ht
    refine Bool.eq_false_iff.mpr fun hbt => ?_
    obtain ⟨c, rfl, hc⟩ := Token.eq_plain_of_isBlank hbt
    obtain ⟨rest, rfl⟩ := List.head?_eq_some_iff.mp ht
    have hn := Text.head_trimWhile Text.isBlank ((front ++ .plain c :: rest ++ back).flatMap
      Token.written) c (by rw [← Text.trim, he]; rfl)
    exact absurd (hc.symm.trans hn) (Bool.false_ne_true ∘ Eq.symm)
  · intro t ht
    refine Bool.eq_false_iff.mpr fun hbt => ?_
    obtain ⟨c, rfl, hc⟩ := Token.eq_plain_of_isBlank hbt
    obtain ⟨rest, rfl⟩ := List.getLast?_eq_some_iff.mp ht
    have hn := Text.getLast_dropEndWhile Text.isBlank _ c (by
      rw [← Text.trimWhile, ← Text.trim, he]
      simp [Token.written])
    exact absurd (hc.symm.trans hn) (Bool.false_ne_true ∘ Eq.symm)

/-- What is left of markup that ends in no text that looks like a tag, and in no other tag than that
of the default face. -/
theorem tokens_trimmed (h : ∀ t ∈ ts, t.IsRegular) (hl : ¬lookalike defaultTag <:+ ts)
    (hd : ∀ inside, [.tag inside] <:+ ts → inside = defaultTag) :
    ∃ front mid back tail, ts = front ++ mid ++ back ++ tail ∧ (∀ t ∈ front, t.isBlank) ∧
      (∀ t ∈ back, t.isBlank) ∧ tokens? (trimmed (ts.flatMap Token.written)) = some mid ∧
      (∀ t ∈ mid.head?, t.isBlank = false) ∧ (∀ t ∈ mid.getLast?, t.isBlank = false) ∧
      (tail = [.tag defaultTag] ∨ tail = [] ∧ ∀ inside, ¬[.tag inside] <:+ ts) := by
  by_cases hs : ∃ inside, [.tag inside] <:+ ts
  · obtain ⟨inside, hs⟩ := hs
    obtain rfl := hd inside hs
    obtain ⟨ts, rfl⟩ := hs
    obtain ⟨front, mid, back, rfl, hf, hb, ht, hh, hm⟩ :=
      @tokens_trim ts fun t ht => h t (List.mem_append_left _ ht)
    refine ⟨front, mid, back, [.tag defaultTag], rfl, hf, hb, ?_, hh, hm, .inl rfl⟩
    rw [List.flatMap_append, List.flatMap_singleton, Token.written, trimmed_append, ht]
  · have hn : ¬tagOf defaultTag <:+ ts.flatMap Token.written := by
      rintro ⟨u, hu⟩
      obtain ⟨front, ⟨rfl, -⟩ | ⟨rfl, -⟩⟩ := ends_in_tag h isTagText_defaultTag hu.symm
      · exact hs ⟨_, List.suffix_append _ _⟩
      · exact hl (List.suffix_append _ _)
    obtain ⟨front, mid, back, he, hf, hb, ht, hh, hm⟩ := tokens_trim h
    refine ⟨front, mid, back, [], by simpa using he, hf, hb, ?_, hh, hm, .inr ⟨rfl, ?_⟩⟩
    · rw [trimmed_of_not_suffix hn, ht]
    · exact fun inside hi => hs ⟨inside, hi⟩

/-- Whether the last character that is seen of tokens is no white space. -/
def EndSolid (ts : List Token) : Prop :=
  ∀ c ∈ (ts.flatMap Token.visible).getLast?, Text.isBlank c = false

instance (ts : List Token) : Decidable (EndSolid ts) :=
  @Option.decidableForallMem _ _ inferInstance _

/-- White space is left out where all that stands behind it is. -/
theorem endingOf_cut (h : ∀ t ∈ ts, t.isBlank) (he : e = .nothing ∨ e = .cut) :
    endingOf ts e = .cut ∨ endingOf ts e = e ∧ ts = [] := by
  obtain rfl | ⟨ts, t, rfl⟩ := List.eq_nil_or_concat ts
  · exact .inr ⟨rfl, rfl⟩
  · rw [List.concat_eq_append] at h ⊢
    obtain ⟨hts, ht⟩ := List.forall_mem_append.mp h
    have hc : e.blank = .cut := by obtain rfl | rfl := he <;> rfl
    rw [endingOf_append, endingOf_cons, endingOf_nil,
      Token.ending_of_isBlank (ht t List.mem_cons_self), hc]
    exact .inl (endingOf_blanks hts rfl)

/-- White space in front of markup makes no difference. -/
theorem endingOf_front (h : ∀ t ∈ ts, t.isBlank) : endingOf ts e = .space ↔ e = .space := by
  induction ts with
  | nil => rfl
  | cons t ts ih =>
    obtain ⟨ht, hts⟩ := List.forall_mem_cons.mp h
    rw [endingOf_cons, Token.ending_of_isBlank ht, ← ih hts]
    cases endingOf ts e <;> simp [Ending.blank]

/-- How markup without white space at its ends is read in front of what is left out. -/
theorem endSolid_iff_ending (h : ∀ t ∈ ts, t.IsRegular) (hh : ∀ t ∈ ts.head?, t.isBlank = false)
    (hl : ∀ t ∈ ts.getLast?, t.isBlank = false)
    (he : e = .cut ∨ e = .nothing ∧ ∀ inside, ¬[.tag inside] <:+ ts) :
    EndSolid ts ↔ endingOf ts e ≠ .space := by
  obtain rfl | ⟨ts, t, rfl⟩ := List.eq_nil_or_concat ts
  · rw [endingOf_nil]
    refine iff_of_true (by simp [EndSolid]) ?_
    obtain rfl | ⟨rfl, -⟩ := he <;> simp
  · rw [List.concat_eq_append] at h hh hl he ⊢
    obtain ⟨hts, ht⟩ := List.forall_mem_append.mp h
    have hbt : t.isBlank = false := hl t (by simp)
    rw [endingOf_append, endingOf_cons, endingOf_nil, EndSolid, List.flatMap_append,
      List.flatMap_singleton]
    obtain ⟨hv, -, ⟨inside, rfl⟩, hte⟩ | ⟨-, hb, -⟩ | ⟨⟨c, hv, hc⟩, -, hte⟩ :=
      t.ending_cases (ht t List.mem_cons_self)
    · -- The tag stays, so something that is left out stands behind it.
      obtain rfl := he.resolve_right fun hn => hn.2 inside (List.suffix_append _ _)
      have hfirst : ∀ u ∈ ts.head?, u.isBlank = false := by
        intro u hu
        exact hh u (by simp [List.head?_append, Option.mem_def.mp hu])
      have hface := endingOf_face hts hfirst
      rw [hte, Ending.tag, hv, List.append_nil]
      cases hlast : (ts.flatMap Token.visible).getLast? with
      | none =>
        rw [hlast] at hface
        simp [hface]
      | some c =>
        rw [hlast] at hface
        cases hb : Text.isBlank c <;> simp [hface, hb]
    · exact absurd (hbt.symm.trans hb) Bool.false_ne_true
    · have hs : e.sign = .solid := by obtain rfl | ⟨rfl, -⟩ := he <;> rfl
      rw [hv, hte, hs, endingOf_known (.inl rfl), List.getLast?_concat]
      simpa using hc

/-- What is left of markup ends in white space exactly if the markup, read from its end, does. -/
theorem endSolid_iff (h : ∀ t ∈ ts, t.IsRegular) (hl : ¬lookalike defaultTag <:+ ts)
    (hd : ∀ inside, [.tag inside] <:+ ts → inside = defaultTag) :
    ∃ mid, tokens? (trimmed (ts.flatMap Token.written)) = some mid ∧
      (EndSolid mid ↔ endingOf ts .nothing ≠ .space) := by
  obtain ⟨front, mid, back, tail, rfl, hf, hb, ht, hh, hm, htail⟩ := tokens_trimmed h hl hd
  refine ⟨mid, ht, ?_⟩
  have hr : ∀ t ∈ mid, t.IsRegular := fun t ht =>
    h t (List.mem_append_left _ (List.mem_append_left _ (List.mem_append_right _ ht)))
  rw [List.append_assoc, List.append_assoc, endingOf_append, endingOf_append, ne_eq,
    endingOf_front hf]
  refine endSolid_iff_ending hr hh hm ?_
  rw [endingOf_append]
  obtain rfl | ⟨rfl, hn⟩ := htail
  · exact .inl (endingOf_blanks hb rfl)
  · obtain hc | ⟨hn', rfl⟩ := endingOf_cut hb (.inl rfl)
    · exact .inl hc
    · refine .inr ⟨hn', fun inside hi => hn inside ?_⟩
      rw [List.append_nil, List.append_nil]
      exact hi.trans (List.suffix_append _ _)

end

/-! ### The last tag of a document -/

/-- Emphasis that begins in a document ends in it. -/
theorem not_endsInStress (nodes : List Node) : ¬EndsInStress (eventsOf nodes) := by
  rintro ⟨front, e, back, he, hs, hb⟩
  cases e with
  | enter tag =>
    have hp : front ++ [.enter tag] <+: eventsOf nodes := ⟨back, by simp [he]⟩
    obtain ⟨children, around, hn⟩ := exists_stands_of_enter hp
    obtain ⟨rest, hr⟩ := hn.events_prefix
    rw [he, Node.events, List.append_assoc, List.append_cancel_left_eq, List.cons_append,
      List.cons.injEq] at hr
    have hl : (Event.leave tag).showsFace = false := hb _ (by simp [← hr.2])
    have hf : tag.hasFace = true := by rw [Tag.hasFace, show tag.isStress = true from hs]; rfl
    exact absurd (hf.symm.trans hl) Bool.false_ne_true.symm
  | _ => exact absurd hs Bool.false_ne_true

/-- Behind a document the default face is in effect. -/
theorem tagBehind_eventsOf (nodes : List Node) : tagBehind (eventsOf nodes) = .face .default := by
  have hf : (Context.start.after (eventsOf nodes)).face = .default := by
    rw [Context.face, faces_after, Context.start, List.drop_nil]
    rfl
  obtain hs | hb : _ ∨ tagBehind (eventsOf nodes) = _ :=
    @tagFrom_cases (.face .default) .start (.inr rfl) (eventsOf nodes)
  · exact absurd ((isStressed_tagBehind_iff _).mp hs) (not_endsInStress nodes)
  · rw [hb, hf]

theorem getLast_inside (spans : List Span) :
    (spans.filterMap Span.inside?).getLast? =
      (spans.filter Span.isTag).getLast?.bind Span.inside? := by
  induction spans using List.reverseRecOn with
  | nil => rfl
  | append_singleton spans span ih =>
    cases h : span.inside? with
    | none => simp [h, Span.isTag, ih]
    | some inside => simp [h, Span.isTag]

/-- A tag at the end of a document is that of the default face. -/
theorem last_tag {nodes : List Node} {inside : List Char}
    (h : [.tag inside] <:+ rendered (eventsOf nodes)) : inside = defaultTag := by
  obtain ⟨front, hf⟩ := h
  have hl : ((rendered (eventsOf nodes)).filterMap Token.inside?).getLast? = some inside := by
    simp [← hf, Token.inside?]
  rw [rendered, filterMap_tokensOf, getLast_inside] at hl
  obtain ⟨span, hs, hi⟩ := Option.bind_eq_some_iff.mp hl
  have ht := tagBehind_eventsOf nodes
  rw [tagBehind, tagFrom, ← spansOf, List.getLastD_eq_getLast?, hs, Option.getD_some] at ht
  subst ht
  exact (Option.some.inj hi).symm

/-! ### How documents end -/

/-- Whether the last character that is seen of the markup of events is no white space. -/
def EndsSolid (events : List Event) : Prop :=
  ∃ tokens, tokens? (ofEvents events) = some tokens ∧ EndSolid tokens

theorem endsSolid_of_tokens {events : List Event} {tokens : List Token}
    (h : tokens? (ofEvents events) = some tokens) : EndsSolid events ↔ EndSolid tokens := by
  simp [EndsSolid, h]

instance (events : List Event) : Decidable (EndsSolid events) :=
  inferInstanceAs (Decidable (∃ tokens ∈ tokens? (ofEvents events), EndSolid tokens))

/-- A text that looks like a tag ends the markup with its backslash. -/
theorem endsSolid_lookalike {events : List Event} (h : EndsInLookalike events) :
    EndsSolid events ∧ endingOf (rendered events) .nothing = .solid := by
  obtain ⟨body, hb⟩ := h
  obtain ⟨front, mid, -, -, ht⟩ := tokens_ofEvents_lookalike hb.symm
  refine ⟨(endsSolid_of_tokens ht).mpr ?_, ?_⟩
  · simp [EndSolid, Token.visible]
    decide
  · have hl : endingOf (lookalike defaultTag) .nothing = .solid := by decide
    rw [← hb, endingOf_append, hl, endingOf_known (.inl rfl)]

theorem endsSolid_iff_rendered (nodes : List Node) :
    EndsSolid (eventsOf nodes) ↔ endingOf (rendered (eventsOf nodes)) .nothing ≠ .space := by
  by_cases hl : EndsInLookalike (eventsOf nodes)
  · obtain ⟨hs, he⟩ := endsSolid_lookalike hl
    exact iff_of_true hs (by simp [he])
  · obtain ⟨mid, hm, hi⟩ := endSolid_iff (isRegular_rendered _) hl fun _ => last_tag
    rw [← ofEvents_eq_trimmed] at hm
    rw [endsSolid_of_tokens hm, hi]

/-! ### Nodes read from their end -/

/-- What is known of the quote around a place. -/
structure Quoting where
  inQuote : Bool
  /-- A text of the quote has been shown. -/
  begun : Bool

namespace Quoting

def outside : Quoting := ⟨false, false⟩

def inside (q : Quoting) : Tag → Quoting
  | .blockQuote => { q with inQuote := true }
  | _ => q

mutual

/-- Behind a node. The end of a quote ends those around it, too. -/
def behindNode (q : Quoting) : Node → Quoting
  | .element .blockQuote _ => outside
  | .element _ children => q.behind children
  | .text _ => { q with begun := q.begun || q.inQuote }
  | _ => q

def behind (q : Quoting) : List Node → Quoting
  | [] => q
  | n :: rest => (q.behindNode n).behind rest

end

end Quoting

namespace Ending

variable (q : Quoting) (e : Ending)

/-- What stands behind the place before the beginning of an element. -/
def opening : Tag → Ending
  | .paragraph => if q.inQuote && q.begun then e.blank.sign else e.blank
  | .heading level => (e.chars (List.replicate level '#' ++ [' '])).tag.blank
  | .codeBlock _ => e.tag.blank
  | .item => e.tag.blank.sign
  | .blockQuote | .emphasis | .strong | .link _ => e.tag
  | .list _ | .image _ => e

/-- What stands behind the place before the end of an element, with a list around it or none. -/
def closing (inList : Bool) : Tag → Ending
  | .paragraph => e.blank
  | .heading _ => e.blank.tag
  | .blockQuote | .codeBlock _ | .emphasis | .strong | .link _ => e.tag
  | .list _ => if inList then e else e.blank
  | .item | .image _ => e

mutual

def beforeNode (inList : Bool) (q : Quoting) (e : Ending) : Node → Ending
  | .element tag children =>
    opening q (before (inList || tag.isList) (q.inside tag) (e.closing inList tag) children) tag
  | .text s => if q.inQuote then (e.chars s.toList).blank.sign else e.chars s.toList
  | .code s => (e.tag.chars s.toList).tag
  | .html s => e.chars s.toList
  | .softBreak | .hardBreak => e.blank
  | .rule => e.blank.tag.sign

def before (inList : Bool) (q : Quoting) (e : Ending) : List Node → Ending
  | [] => e
  | n :: rest => beforeNode inList q (before inList (q.behindNode n) e rest) n

end

end Ending

/-- What is known of the quote around a reader. -/
def Context.quoting (ctx : Context) : Quoting := ⟨ctx.inQuote, ctx.quoteBegun⟩

/-! ### Spans read from their end -/

def Span.ending (e : Ending) : Span → Ending
  | face _ => e.tag
  | stressed _ _ => e.tag
  | sign s => e.chars s
  | text s => e.chars s

theorem Token.ending_ofChar (c : Char) (e : Ending) : (Token.ofChar c).ending e = e.char c := by
  rw [Token.ofChar]
  split <;> rfl

theorem endingOf_tokens (span : Span) (e : Ending) : endingOf span.tokens e = span.ending e := by
  cases span with
  | face f => rfl
  | stressed stress f => rfl
  | sign s => simp [endingOf, Span.tokens, Span.ending, Ending.chars, List.foldr_map, Token.ending]
  | text s =>
    simp [endingOf, Span.tokens, Span.ending, Ending.chars, List.foldr_map, Token.ending_ofChar]

def endingOfSpans (spans : List Span) (e : Ending) : Ending :=
  spans.foldr (fun span e => span.ending e) e

@[simp] theorem endingOfSpans_nil (e : Ending) : endingOfSpans [] e = e := rfl

@[simp] theorem endingOfSpans_cons (span : Span) (spans : List Span) (e : Ending) :
    endingOfSpans (span :: spans) e = span.ending (endingOfSpans spans e) := rfl

@[simp] theorem endingOfSpans_append (xs ys : List Span) (e : Ending) :
    endingOfSpans (xs ++ ys) e = endingOfSpans xs (endingOfSpans ys e) := List.foldr_append

theorem endingOf_tokensOf (spans : List Span) (e : Ending) :
    endingOf (tokensOf spans) e = endingOfSpans spans e := by
  induction spans with
  | nil => rfl
  | cons span spans ih =>
    rw [tokensOf, List.flatMap_cons, endingOf_append, ← tokensOf, ih, endingOf_tokens]
    rfl

/-! ### What nodes show -/

/-- The mark of an item is a sign with a space behind it. -/
theorem Ending.chars_itemMark (lists : List (Option Nat)) (e : Ending) :
    e.chars (itemMark lists).1 = e.blank.sign := by
  match lists with
  | some number :: outer => simp [itemMark, chars_append]
  | [] | none :: outer => simp [itemMark]

theorem ending_enter (ctx : Context) (tag : Tag) (e : Ending) :
    endingOfSpans (read ctx (.enter tag)).2 e = e.opening ctx.quoting tag := by
  cases tag with
  | paragraph =>
    simp only [read, enter, Ending.opening, Context.quoting]
    split <;> simp_all [newLine, Span.ending]
  | item => simp [read, enter, Ending.opening, Span.ending, Ending.chars_itemMark]
  | _ => simp [read, enter, Ending.opening, Span.ending, newLine]

theorem ending_leave (ctx : Context) (tag : Tag) (e : Ending) :
    endingOfSpans (read ctx (.leave tag)).2 e = e.closing (!ctx.lists.tail.isEmpty) tag := by
  cases tag with
  | list start =>
    simp only [read, leave, Ending.closing]
    cases ctx.lists.tail.isEmpty <;> simp [newLine, Span.ending]
  | _ => simp [read, leave, popFace, Ending.closing, Span.ending, newLine]

theorem ending_leaf (ctx : Context) {n : Node} (h : n.isLeaf = true) (inList : Bool) (e : Ending) :
    endingOfSpans (spansFrom ctx n.events) e = e.beforeNode inList ctx.quoting n := by
  cases n with
  | element tag children => exact absurd h Bool.false_ne_true
  | text s =>
    simp only [Node.events, spansFrom, read, Ending.beforeNode, Context.quoting]
    split <;> simp_all [Span.ending]
  | softBreak =>
    simp only [Node.events, spansFrom, read, Ending.beforeNode]
    split <;> simp [newLine, Span.ending]
  | _ => simp [Node.events, spansFrom, read, Ending.beforeNode, newLine, Span.ending]

theorem quoting_enter (ctx : Context) (tag : Tag) :
    (read ctx (.enter tag)).1.quoting = ctx.quoting.inside tag := by
  cases tag <;> rfl

theorem quoting_after (nodes : List Node) (ctx : Context) :
    (ctx.after (eventsOf nodes)).quoting = ctx.quoting.behind nodes := by
  induction nodes using Node.induct generalizing ctx with
  | nil => rfl
  | element tag children rest ihc ihr =>
    rw [eventsOf_cons, after_append, ihr, Quoting.behind]
    congr 1
    rw [Node.events, Context.after, after_append, Context.after, Context.after]
    have hc := ihc (read ctx (.enter tag)).1
    rw [quoting_enter] at hc
    cases tag with
    | blockQuote => rfl
    | _ => exact hc
  | leaf n rest hn ih =>
    rw [eventsOf_cons, after_append, ih, Quoting.behind]
    congr 1
    cases n with
    | element tag children => exact absurd hn Bool.false_ne_true
    | text s =>
      simp only [Node.events, Context.after, read, Quoting.behindNode, Context.quoting]
      cases h : ctx.inQuote <;> simp [h]
    | _ => rfl

theorem isEmpty_lists_enter (ctx : Context) (tag : Tag) :
    (!(read ctx (.enter tag)).1.lists.isEmpty) = (!ctx.lists.isEmpty || tag.isList) := by
  rw [lists_enter]
  cases tag with
  | item => cases ctx.lists <;> simp [Tag.isList]
  | _ => simp [Tag.isList]

/-- The end of a list is told from the lists around it, as those inside it have ended. -/
theorem ending_leave_children (ctx : Context) (tag : Tag) (children : List Node) (e : Ending) :
    endingOfSpans (read ((read ctx (.enter tag)).1.after (eventsOf children)) (.leave tag)).2 e =
      e.closing (!ctx.lists.isEmpty) tag := by
  rw [ending_leave]
  cases tag with
  | list start =>
    have hl := length_lists_nodes children (read ctx (.enter (.list start))).1
    rw [lists_enter, List.length_cons] at hl
    congr 2
    rw [Bool.eq_iff_iff, List.isEmpty_iff_length_eq_zero, List.isEmpty_iff_length_eq_zero,
      List.length_tail, hl, Nat.add_sub_cancel]
  | _ => rfl

theorem ending_element (ctx : Context) (tag : Tag) (children : List Node) (e : Ending)
    (h : ∀ (ctx : Context) (e : Ending), endingOfSpans (spansFrom ctx (eventsOf children)) e =
      e.before (!ctx.lists.isEmpty) ctx.quoting children) :
    endingOfSpans (spansFrom ctx (Node.element tag children).events) e =
      e.beforeNode (!ctx.lists.isEmpty) ctx.quoting (.element tag children) := by
  have hl (ctx : Context) : spansFrom ctx [.leave tag] = (read ctx (.leave tag)).2 :=
    List.append_nil _
  rw [Node.events, spansFrom, endingOfSpans_append, spansFrom_append, endingOfSpans_append, h, hl,
    ending_enter, ending_leave_children, quoting_enter, isEmpty_lists_enter, Ending.beforeNode]

/-- What a document shows, read from its end, is told by its nodes. -/
theorem ending_spansFrom (nodes : List Node) (ctx : Context) (e : Ending) :
    endingOfSpans (spansFrom ctx (eventsOf nodes)) e =
      e.before (!ctx.lists.isEmpty) ctx.quoting nodes := by
  induction nodes using Node.induct generalizing ctx e with
  | nil => rfl
  | element tag children rest ihc ihr =>
    have hl : (ctx.after (Node.element tag children).events).lists.isEmpty = ctx.lists.isEmpty := by
      have h := length_lists_nodes [.element tag children] ctx
      rw [eventsOf_cons, eventsOf_nil, List.append_nil] at h
      rw [Bool.eq_iff_iff, List.isEmpty_iff_length_eq_zero, List.isEmpty_iff_length_eq_zero, h]
    have hq : (ctx.after (Node.element tag children).events).quoting =
        ctx.quoting.behindNode (.element tag children) := by
      simpa [Quoting.behind] using quoting_after [.element tag children] ctx
    rw [eventsOf_cons, spansFrom_append, endingOfSpans_append, ihr, hl, hq, Ending.before,
      ending_element ctx tag children _ ihc]
  | leaf n rest hn ih =>
    have hl : (ctx.after n.events).lists.isEmpty = ctx.lists.isEmpty := by rw [lists_leaf ctx hn]
    have hq : (ctx.after n.events).quoting = ctx.quoting.behindNode n := by
      simpa [Quoting.behind] using quoting_after [n] ctx
    rw [eventsOf_cons, spansFrom_append, endingOfSpans_append, ih, ending_leaf ctx hn, hl, hq,
      Ending.before]

/-- The markup of a document ends in white space exactly if its nodes, read from the last to the
first, come to white space behind which a tag stays. -/
theorem endsSolid_eventsOf_iff (nodes : List Node) :
    EndsSolid (eventsOf nodes) ↔ Ending.nothing.before false .outside nodes ≠ .space := by
  rw [endsSolid_iff_rendered, rendered, endingOf_tokensOf, spansOf, ending_spansFrom]
  rfl

/-- A block of code at the end of an item or a quote, a quote at the end of a quote, a heading
without text, and a code with a space at its end. -/
theorem nested_endings_leave_space :
    ¬EndsSolid (eventsOf (parse "- \x60\x60\x60\n  a\n  \x60\x60\x60")) ∧
      ¬EndsSolid (eventsOf (parse "> \x60\x60\x60\n> a\n> \x60\x60\x60")) ∧
      ¬EndsSolid (eventsOf (parse "> > a")) ∧ ¬EndsSolid (eventsOf (parse "# ")) ∧
      ¬EndsSolid (eventsOf (parse "\x60a \x60")) := by
  decide +kernel

end Markup

end EditorBridge
