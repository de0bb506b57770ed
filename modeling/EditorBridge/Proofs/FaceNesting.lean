import EditorBridge.Proofs.MarkupText
import EditorBridge.Proofs.NodePlaces

/-!
Which face is in effect behind an element. An element that sets a face for what is inside it goes
back to the face around it, and so does emphasis, although it has set none. Hence the face before an
element is in effect again behind it exactly where emphasis and elements that set a face stay apart.
-/

namespace EditorBridge

/-! ### Elements with faces -/

namespace Markdown

/-- Whether an element adds a stress to the face around it. -/
def Tag.isStress : Tag → Bool
  | .emphasis | .strong => true
  | _ => false

def Tag.setsFace : Tag → Bool
  | .heading _ | .blockQuote | .codeBlock _ | .link _ => true
  | _ => false

def Tag.hasFace (tag : Tag) : Bool := tag.isStress || tag.setsFace

theorem not_isStress_of_setsFace {tag : Tag} (h : tag.setsFace = true) : tag.isStress = false := by
  cases tag with
  | emphasis | strong => exact absurd h Bool.false_ne_true
  | _ => rfl

/-- Whether a node begins with a face and goes back to another one at its end. -/
def Node.hasFace : Node → Bool
  | .element tag _ => tag.hasFace
  | .code _ => true
  | _ => false

def Event.beginsStress : Event → Bool
  | .enter tag => tag.isStress
  | _ => false

def Event.endsStress : Event → Bool
  | .leave tag => tag.isStress
  | _ => false

def Event.showsFace : Event → Bool
  | .enter .item => true
  | .enter tag => tag.hasFace
  | .leave tag => tag.hasFace
  | .code _ => true
  | .rule => true
  | _ => false

def stressEnds (events : List Event) : Nat := events.countP Event.endsStress

@[simp] theorem stressEnds_nil : stressEnds [] = 0 := rfl

@[simp] theorem stressEnds_cons (e : Event) (events : List Event) :
    stressEnds (e :: events) = stressEnds events + e.endsStress.toNat := by
  cases h : e.endsStress <;> simp [stressEnds, h]

@[simp] theorem stressEnds_append (xs ys : List Event) :
    stressEnds (xs ++ ys) = stressEnds xs + stressEnds ys := List.countP_append

theorem stressEnds_element (tag : Tag) (children : List Node) :
    stressEnds (Node.element tag children).events =
      stressEnds (eventsOf children) + tag.isStress.toNat := by
  simp [Node.events, Event.endsStress]

theorem stressEnds_leaf {n : Node} (h : n.isLeaf = true) : stressEnds n.events = 0 := by
  cases n with
  | element tag children => simp [Node.isLeaf] at h
  | _ => rfl

/-- Where emphasis ends inside nodes, emphasis stands in them. -/
theorem exists_stress {nodes : List Node} (h : 0 < stressEnds (eventsOf nodes)) :
    ∃ tag children before around, tag.isStress = true ∧
      Stands (.element tag children) before around nodes := by
  obtain ⟨e, he, hs⟩ := List.countP_pos_iff.mp h
  cases e with
  | leave tag =>
    obtain ⟨children, before, around, hn⟩ := exists_stands_of_leave he
    exact ⟨tag, children, before, around, hs, hn⟩
  | _ => simp [Event.endsStress] at hs

/-- Where emphasis stands among nodes, it ends there. -/
theorem Stands.stressEnds_pos {tag : Tag} {children nodes : List Node} {before : List Event}
    {around : List Tag} (h : Stands (.element tag children) before around nodes)
    (hs : tag.isStress = true) : 0 < stressEnds (eventsOf nodes) := by
  obtain ⟨after, ha⟩ := h.events_prefix
  rw [← ha, stressEnds_append, stressEnds_append, stressEnds_element, hs, Bool.toNat_true]
  omega

/-- The first node with a face in which emphasis ends: no emphasis has ended before it, and no
element around it sets a face. -/
theorem exists_first_stress {nodes : List Node} (h : 0 < stressEnds (eventsOf nodes)) :
    ∃ n before around, Stands n before around nodes ∧ n.hasFace = true ∧
      0 < stressEnds n.events ∧ stressEnds before = 0 ∧
      ∀ tag ∈ around, tag.setsFace = false := by
  induction nodes using Node.induct with
  | nil => simp at h
  | element tag children rest ihc ihr =>
    by_cases hz : stressEnds (Node.element tag children).events = 0
    · obtain ⟨n, before, around, hn, hf, hp, hb, ha⟩ := ihr (by simpa [hz] using h)
      exact ⟨n, _, around, .later _ hn, hf, hp, by simp [hz, hb], ha⟩
    · by_cases hf : tag.hasFace = true
      · exact ⟨_, _, _, .here rest, hf, Nat.pos_of_ne_zero hz, rfl, by simp⟩
      · obtain ⟨hs, ht⟩ : tag.isStress = false ∧ tag.setsFace = false := by
          simpa [Tag.hasFace] using hf
        rw [stressEnds_element, hs] at hz
        obtain ⟨n, before, around, hn, hf, hp, hb, ha⟩ := ihc (Nat.pos_of_ne_zero hz)
        exact ⟨n, _, _, .inside tag rest hn, hf, hp, by simpa [Event.endsStress] using hb,
          List.forall_mem_cons.mpr ⟨ht, ha⟩⟩
  | leaf n rest hn ih =>
    have hz := stressEnds_leaf hn
    obtain ⟨m, before, around, hm, hf, hp, hb, ha⟩ := ih (by simpa [hz] using h)
    exact ⟨m, _, around, .later n hm, hf, hp, by simp [hz, hb], ha⟩

/-- The outermost element around a node that sets a face. -/
theorem Stands.outermost {n : Node} {before : List Event} {around : List Tag} {nodes : List Node}
    (h : Stands n before around nodes) (hs : ∃ tag ∈ around, tag.setsFace = true) :
    ∃ tag children before' around' before'' around'', tag.setsFace = true ∧
      Stands (.element tag children) before' around' nodes ∧
      (∀ outer ∈ around', outer.setsFace = false) ∧ Stands n before'' around'' children := by
  induction h with
  | here rest => simp at hs
  | later first _ ih =>
    obtain ⟨tag, children, _, around', _, _, ht, he, ho, hn⟩ := ih hs
    exact ⟨tag, children, _, around', _, _, ht, .later first he, ho, hn⟩
  | @inside tag children rest before around hn ih =>
    by_cases ht : tag.setsFace = true
    · exact ⟨tag, children, _, _, before, around, ht, .here rest, by simp, hn⟩
    · obtain ⟨t, hm, hs⟩ := hs
      obtain rfl | hm := List.mem_cons.mp hm
      · exact absurd hs ht
      · obtain ⟨inner, more, _, _, _, _, hi, he, ho, hn⟩ := ih ⟨t, hm, hs⟩
        exact ⟨inner, more, _, _, _, _, hi, .inside tag rest he,
          List.forall_mem_cons.mpr ⟨by simpa using ht, ho⟩, hn⟩

end Markdown

namespace Markup

open Markdown

/-! ### The open faces -/

theorem after_append (ctx : Context) (xs ys : List Event) :
    ctx.after (xs ++ ys) = (ctx.after xs).after ys := by
  induction xs generalizing ctx with
  | nil => rfl
  | cons event rest ih => exact ih _

theorem faces_enter (ctx : Context) {tag : Tag} (h : tag.setsFace = false) :
    (read ctx (.enter tag)).1.faces = ctx.faces := by
  cases tag with
  | heading _ | blockQuote | codeBlock _ | link _ => exact absurd h.symm Bool.false_ne_true
  | _ => rfl

theorem faces_enter_setsFace (ctx : Context) {tag : Tag} (h : tag.setsFace = true) :
    ∃ f, f ≠ .default ∧ (read ctx (.enter tag)).1.faces = f :: ctx.faces := by
  cases tag with
  | heading level => exact ⟨.header, by decide, rfl⟩
  | blockQuote => exact ⟨.blockQuote, by decide, rfl⟩
  | codeBlock info => exact ⟨.block, by decide, rfl⟩
  | link target => exact ⟨.link, by decide, rfl⟩
  | _ => exact absurd h Bool.false_ne_true

theorem faces_leave (ctx : Context) (tag : Tag) :
    (read ctx (.leave tag)).1.faces = if tag.hasFace then ctx.faces.tail else ctx.faces := by
  cases tag <;> rfl

/-- A leaf leaves the reader as it was, but for what it has seen of a quote. -/
theorem after_leaf (ctx : Context) {n : Node} (h : n.isLeaf = true) :
    ∃ begun, ctx.after n.events = { ctx with quoteBegun := begun } := by
  cases n with
  | element tag children => simp [Node.isLeaf] at h
  | text s =>
    simp only [Node.events, Context.after, read]
    split <;> exact ⟨_, rfl⟩
  | _ => exact ⟨_, rfl⟩

theorem faces_leaf (ctx : Context) {n : Node} (h : n.isLeaf = true) :
    (ctx.after n.events).faces = ctx.faces := by
  obtain ⟨begun, hb⟩ := after_leaf ctx h
  rw [hb]

/-- An element that sets a face takes that one away when it ends, and emphasis one that it has not
set. -/
theorem faces_element {tag : Tag} {children : List Node} (ctx : Context)
    (h : ∀ ctx : Context, (ctx.after (eventsOf children)).faces =
      ctx.faces.drop (stressEnds (eventsOf children))) :
    (ctx.after (Node.element tag children).events).faces =
      ctx.faces.drop (stressEnds (Node.element tag children).events) := by
  have hl : (ctx.after (Node.element tag children).events).faces =
      (read ((read ctx (.enter tag)).1.after (eventsOf children)) (.leave tag)).1.faces := by
    simp [Node.events, Context.after, after_append]
  rw [hl, faces_leave, h, stressEnds_element]
  by_cases hs : tag.setsFace = true
  · obtain ⟨f, -, hf⟩ := faces_enter_setsFace ctx hs
    simp [hf, Tag.hasFace, hs, not_isStress_of_setsFace hs]
  · rw [faces_enter ctx (Bool.eq_false_iff.mpr hs)]
    by_cases ht : tag.isStress = true <;> simp [Tag.hasFace, hs, ht]

/-- Every end of emphasis takes one of the open faces away. -/
theorem faces_after (nodes : List Node) (ctx : Context) :
    (ctx.after (eventsOf nodes)).faces = ctx.faces.drop (stressEnds (eventsOf nodes)) := by
  induction nodes using Node.induct generalizing ctx with
  | nil => rfl
  | element tag children rest ihc ihr =>
    rw [eventsOf_cons, after_append, ihr, faces_element ctx ihc, stressEnds_append, List.drop_drop]
  | leaf n rest hn ih =>
    rw [eventsOf_cons, after_append, ih, faces_leaf ctx hn, stressEnds_append, stressEnds_leaf hn,
      Nat.zero_add]

theorem faces_after_node (n : Node) (ctx : Context) :
    (ctx.after n.events).faces = ctx.faces.drop (stressEnds n.events) := by
  simpa using faces_after [n] ctx

theorem faces_before {n : Node} {before : List Event} {around : List Tag} {nodes : List Node}
    (h : Stands n before around nodes) (ha : ∀ tag ∈ around, tag.setsFace = false)
    (ctx : Context) : (ctx.after before).faces = ctx.faces.drop (stressEnds before) := by
  induction h generalizing ctx with
  | here rest => rfl
  | later first _ ih =>
    rw [after_append, ih ha, faces_after_node, stressEnds_append, List.drop_drop]
  | inside tag rest _ ih =>
    obtain ⟨ht, ha⟩ := List.forall_mem_cons.mp ha
    rw [Context.after, ih ha, faces_enter ctx ht]
    simp [Event.endsStress]

/-! ### The face in effect -/

def Span.isTag (span : Span) : Bool := span.inside?.isSome

/-- The tag that is in effect behind events that are read in a context: the last one, or the one
that was in effect before. -/
def tagFrom (tag : Span) (ctx : Context) (events : List Event) : Span :=
  ((spansFrom ctx events).filter Span.isTag).getLastD tag

/-- The tag that is in effect behind events, at the beginning that of the default face. -/
def tagBehind (events : List Event) : Span := tagFrom (.face .default) .start events

/-- Whether a tag adds a stress to a face. -/
def Span.isStressed : Span → Bool
  | .stressed _ _ => true
  | _ => false

theorem tagFrom_append (tag : Span) (ctx : Context) (xs ys : List Event) :
    tagFrom tag ctx (xs ++ ys) = tagFrom (tagFrom tag ctx xs) (ctx.after xs) ys := by
  simp [tagFrom, spansFrom_append, List.getLastD_eq_getLast?, List.getLast?_append]

theorem tagFrom_cons (tag : Span) (ctx : Context) (e : Event) (events : List Event) :
    tagFrom tag ctx (e :: events) = tagFrom (tagFrom tag ctx [e]) (ctx.after [e]) events :=
  tagFrom_append tag ctx [e] events

/-- The beginning of emphasis shows a stress. -/
theorem tagFrom_beginsStress (tag : Span) (ctx : Context) {e : Event}
    (h : e.beginsStress = true) : (tagFrom tag ctx [e]).isStressed = true := by
  cases e with
  | enter t =>
    cases t with
    | emphasis | strong => rfl
    | _ => exact absurd h Bool.false_ne_true
  | _ => exact absurd h Bool.false_ne_true

/-- Any other event that shows a face shows that of the text behind it. -/
theorem tagFrom_showsFace (tag : Span) (ctx : Context) {e : Event} (h : e.showsFace = true)
    (hb : e.beginsStress = false) : tagFrom tag ctx [e] = .face (ctx.after [e]).face := by
  cases e with
  | enter t =>
    cases t with
    | emphasis | strong => exact absurd hb.symm Bool.false_ne_true
    | paragraph | list _ | image _ => exact absurd h Bool.false_ne_true
    | _ => rfl
  | leave t =>
    cases t with
    | paragraph | list _ | item | image _ => exact absurd h Bool.false_ne_true
    | _ => rfl
  | code s => rfl
  | rule => rfl
  | _ => exact absurd h Bool.false_ne_true

/-- An event that shows no face changes none. -/
theorem tagFrom_hidden (tag : Span) (ctx : Context) {e : Event} (h : e.showsFace = false) :
    tagFrom tag ctx [e] = tag ∧ (ctx.after [e]).face = ctx.face := by
  cases e with
  | enter t =>
    cases t with
    | paragraph =>
      refine ⟨?_, rfl⟩
      simp only [tagFrom, spansFrom, read, enter]
      split <;> rfl
    | list _ | image _ => exact ⟨rfl, rfl⟩
    | _ => exact absurd h.symm Bool.false_ne_true
  | leave t =>
    cases t with
    | list start =>
      refine ⟨?_, rfl⟩
      simp only [tagFrom, spansFrom, read, leave]
      split <;> rfl
    | paragraph | item | image _ => exact ⟨rfl, rfl⟩
    | _ => exact absurd h.symm Bool.false_ne_true
  | text s =>
    simp only [tagFrom, spansFrom, Context.after, read]
    split <;> exact ⟨rfl, rfl⟩
  | softBreak =>
    refine ⟨?_, rfl⟩
    simp only [tagFrom, spansFrom, read]
    split <;> rfl
  | html _ | hardBreak => exact ⟨rfl, rfl⟩
  | _ => exact absurd h.symm Bool.false_ne_true

/-- The tag in effect adds a stress, or is that of the face of the text. -/
theorem tagFrom_cases {tag : Span} {ctx : Context}
    (h : tag.isStressed = true ∨ tag = .face ctx.face) (events : List Event) :
    (tagFrom tag ctx events).isStressed = true ∨
      tagFrom tag ctx events = .face (ctx.after events).face := by
  induction events generalizing tag ctx with
  | nil => exact h
  | cons e events ih =>
    rw [tagFrom_cons]
    refine @ih _ (ctx.after [e]) ?_
    cases hs : e.showsFace with
    | false =>
      obtain ⟨ht, hf⟩ := tagFrom_hidden tag ctx hs
      rwa [ht, hf]
    | true =>
      cases hb : e.beginsStress with
      | false => exact .inr (tagFrom_showsFace tag ctx hs hb)
      | true => exact .inl (tagFrom_beginsStress tag ctx hb)

/-- Whether events end right inside emphasis: no face is shown since it began. -/
def EndsInStress (events : List Event) : Prop :=
  ∃ front e back, events = front ++ e :: back ∧ e.beginsStress = true ∧
    ∀ x ∈ back, x.showsFace = false

theorem endsInStress_cons (e : Event) (events : List Event) :
    EndsInStress (e :: events) ↔
      EndsInStress events ∨ e.beginsStress = true ∧ ∀ x ∈ events, x.showsFace = false := by
  constructor
  · rintro ⟨front, f, back, he, hf, hb⟩
    cases front with
    | nil =>
      obtain ⟨rfl, rfl⟩ := List.cons.inj he
      exact .inr ⟨hf, hb⟩
    | cons g front =>
      obtain ⟨rfl, rfl⟩ := List.cons.inj he
      exact .inl ⟨front, f, back, rfl, hf, hb⟩
  · rintro (⟨front, f, back, rfl, hf, hb⟩ | ⟨he, hb⟩)
    · exact ⟨e :: front, f, back, rfl, hf, hb⟩
    · exact ⟨[], e, events, rfl, he, hb⟩

theorem showsFace_of_beginsStress {e : Event} (h : e.beginsStress = true) :
    e.showsFace = true := by
  cases e with
  | enter t =>
    cases t with
    | emphasis | strong => rfl
    | _ => exact absurd h Bool.false_ne_true
  | _ => exact absurd h Bool.false_ne_true

/-- The tag in effect adds a stress right inside emphasis and nowhere else. -/
theorem isStressed_tagFrom_iff (tag : Span) (ctx : Context) (events : List Event) :
    (tagFrom tag ctx events).isStressed = true ↔
      EndsInStress events ∨ tag.isStressed = true ∧ ∀ x ∈ events, x.showsFace = false := by
  induction events generalizing tag ctx with
  | nil =>
    have hn : ¬EndsInStress [] := by simp [EndsInStress]
    simp [tagFrom, spansFrom, hn]
  | cons e events ih =>
    rw [tagFrom_cons, ih, endsInStress_cons, List.forall_mem_cons]
    cases hs : e.showsFace with
    | false =>
      have hb : e.beginsStress = false := by
        cases hb : e.beginsStress with
        | false => rfl
        | true => simp [showsFace_of_beginsStress hb] at hs
      simp [(tagFrom_hidden tag ctx hs).1, hb]
    | true =>
      cases hb : e.beginsStress with
      | false => simp [tagFrom_showsFace tag ctx hs hb, Span.isStressed]
      | true => simp [tagFrom_beginsStress tag ctx hb]

theorem isStressed_tagBehind_iff (events : List Event) :
    (tagBehind events).isStressed = true ↔ EndsInStress events := by
  rw [tagBehind, isStressed_tagFrom_iff]
  simp [Span.isStressed]

/-- The last tag of a node with a face is that of the face around it. -/
theorem tagFrom_node (tag : Span) (ctx : Context) {n : Node} (h : n.hasFace = true) :
    tagFrom tag ctx n.events = .face (ctx.after n.events).face := by
  cases n with
  | element t children =>
    have hl : (Event.leave t).showsFace = true := h
    rw [Node.events, ← List.cons_append, tagFrom_append, tagFrom_showsFace _ _ hl rfl, after_append]
  | code s => rfl
  | _ => simp [Node.hasFace] at h

/-! ### Faces that are restored -/

/-- Whether behind every element with a face, and behind every code, the tag is in effect that was
in effect before it. -/
def RestoresFaces (nodes : List Node) : Prop :=
  ∀ n before around, Stands n before around nodes → n.hasFace = true →
    tagBehind (before ++ n.events) = tagBehind before

/-- Whether emphasis and what sets a face stay apart. -/
structure StressApart (nodes : List Node) : Prop where
  /-- No element that sets a face stands around emphasis. -/
  around : ∀ tag children before around, Stands (.element tag children) before around nodes →
    tag.isStress = true → ∀ outer ∈ around, outer.setsFace = false
  /-- Nothing with a face is the first to show one inside emphasis. -/
  inside : ∀ n before around, Stands n before around nodes → n.hasFace = true →
    ¬EndsInStress before

theorem restores_iff (before : List Event) {n : Node} (h : n.hasFace = true) :
    tagBehind (before ++ n.events) = tagBehind before ↔
      ¬EndsInStress before ∧
        (Context.start.after (before ++ n.events)).face = (Context.start.after before).face := by
  have hn : tagBehind (before ++ n.events) =
      .face (Context.start.after (before ++ n.events)).face := by
    rw [tagBehind, tagFrom_append, tagFrom_node _ _ h, after_append]
  rw [← isStressed_tagBehind_iff, hn]
  obtain hs | hb : _ ∨ tagBehind before = _ :=
    @tagFrom_cases (.face .default) .start (.inr rfl) before
  · change (tagBehind before).isStressed = true at hs
    simp only [hs, not_true_eq_false, false_and, iff_false]
    intro he
    rw [← he] at hs
    simp [Span.isStressed] at hs
  · rw [hb]
    simp [Span.isStressed]

/-- Emphasis inside an element that sets a face takes that face away too early. -/
theorem RestoresFaces.around {nodes : List Node} (h : RestoresFaces nodes) {tag : Tag}
    {children : List Node} {before : List Event} {around : List Tag}
    (hn : Stands (.element tag children) before around nodes) (hs : tag.isStress = true) :
    ∀ outer ∈ around, outer.setsFace = false := by
  intro outer ho
  refine Bool.eq_false_iff.mpr fun hf => ?_
  obtain ⟨t, inner, front, _, _, _, ht, he, ha, hi⟩ := hn.outermost ⟨outer, ho, hf⟩
  -- Inside the outermost such element, the first node in which emphasis ends is not restored.
  obtain ⟨n, first, _, hm, hnf, hp, hz, hma⟩ := exists_first_stress (hi.stressEnds_pos hs)
  have hr := ((restores_iff _ hnf).mp (h n _ _ (hm.trans he) hnf)).2
  obtain ⟨f, hd, hface⟩ := faces_enter_setsFace (Context.start.after front) ht
  have hfront : (Context.start.after front).faces = [] := by
    rw [faces_before he ha]
    exact List.drop_nil
  have hfirst : (Context.start.after (front ++ .enter t :: first)).faces = [f] := by
    rw [after_append, Context.after, faces_before hm hma, hface, hfront, hz, List.drop_zero]
  have hn : (Context.start.after (front ++ .enter t :: first ++ n.events)).faces = [] := by
    rw [after_append, faces_after_node, hfirst]
    exact List.drop_eq_nil_of_le hp
  rw [Context.face, Context.face, hfirst, hn] at hr
  exact hd hr.symm

/-- Emphasis that stands in no element that sets a face, and elements that hold no emphasis, leave
the open faces as they were. -/
theorem StressApart.face_after {nodes : List Node} (h : StressApart nodes) {n : Node}
    {before : List Event} {around : List Tag} (hn : Stands n before around nodes)
    (hf : n.hasFace = true) :
    (Context.start.after (before ++ n.events)).face = (Context.start.after before).face := by
  rw [after_append, Context.face, Context.face, faces_after_node]
  cases n with
  | element tag children =>
    by_cases hs : tag.isStress = true
    · rw [faces_before hn (h.around tag children before around hn hs)]
      simp [Context.start]
    · have hz : stressEnds (eventsOf children) = 0 := by
        refine Nat.eq_zero_of_not_pos fun hp => ?_
        obtain ⟨inner, more, _, _, hi, hm⟩ := exists_stress hp
        have ho := h.around inner more _ _ (hm.trans hn) hi tag (by simp)
        rw [Node.hasFace, Tag.hasFace, ho, Bool.or_false] at hf
        exact hs hf
      rw [stressEnds_element, hz]
      simp [hs]
  | code s => rfl
  | _ => simp [Node.hasFace] at hf

/-- The face before every element with a face, and before every code, is in effect again behind it
exactly where no emphasis stands inside an element that sets a face, and nothing with a face is the
first to show one inside emphasis. -/
theorem restoresFaces_iff (nodes : List Node) : RestoresFaces nodes ↔ StressApart nodes := by
  constructor
  · intro h
    exact ⟨fun _ _ _ _ hn hs => h.around hn hs,
      fun n before around hn hf => ((restores_iff before hf).mp (h n before around hn hf)).1⟩
  · intro h n before around hn hf
    exact (restores_iff before hf).mpr ⟨h.inside n before around hn hf, h.face_after hn hf⟩

/-- Behind an emphasised word the rest of a heading is not in the face of the heading. -/
theorem heading_loses_face : ¬RestoresFaces (parse "# a *b* c") := by
  have he : eventsOf (parse "# a *b* c") = eventsOf
      [.element (.heading 1) [.text "a ", .element .emphasis [.text "b"], .text " c"]] := by
    decide +kernel
  rw [eventsOf_inj he]
  intro h
  have hn := Stands.inside (.heading 1) []
    (.later (.text "a ") (.here (n := .element .emphasis [.text "b"]) [.text " c"]))
  exact absurd (h _ _ _ hn rfl) (by decide)

end Markup

end EditorBridge
