import EditorBridge.Markdown.TextBlock
import EditorBridge.Markdown.Inline

/-!
The nodes of a line of text. Whatever a line holds, only emphasis, links and images come of it as
elements: no line can open a heading, a list or a block of code inside itself.
-/

namespace EditorBridge.Markdown

/-- Whether an element stands inside a line. -/
def Tag.isInline : Tag → Bool
  | .emphasis | .strong | .link _ | .image _ => true
  | _ => false

/-- Nodes whose elements, at any depth, stand inside a line. -/
def InlineOnly (nodes : List Node) : Prop := ∀ tag, .enter tag ∈ eventsOf nodes → tag.isInline

section

variable {xs ys : List Node}

@[simp] theorem inlineOnly_nil : InlineOnly [] := by simp [InlineOnly]

@[simp] theorem inlineOnly_append : InlineOnly (xs ++ ys) ↔ InlineOnly xs ∧ InlineOnly ys := by
  simp only [InlineOnly, eventsOf_append, List.mem_append]
  exact ⟨fun h => ⟨fun tag ht => h tag (.inl ht), fun tag ht => h tag (.inr ht)⟩,
    fun h tag ht => ht.elim (h.1 tag) (h.2 tag)⟩

theorem inlineOnly_cons {x : Node} : InlineOnly (x :: xs) ↔ InlineOnly [x] ∧ InlineOnly xs :=
  @inlineOnly_append [x] xs

@[simp] theorem inlineOnly_element {tag : Tag} :
    InlineOnly [.element tag xs] ↔ tag.isInline ∧ InlineOnly xs := by
  simp only [InlineOnly, eventsOf_cons, eventsOf_nil, Node.events, List.append_nil,
    List.mem_cons, List.mem_append, Event.enter.injEq, List.not_mem_nil, reduceCtorEq, or_false]
  exact ⟨fun h => ⟨h tag (.inl rfl), fun t ht => h t (.inr ht)⟩,
    fun h t ht => ht.elim (fun he => he ▸ h.1) (h.2 t)⟩

@[simp] theorem inlineOnly_text (s : String) : InlineOnly [.text s] := by
  simp [InlineOnly, Node.events]

@[simp] theorem inlineOnly_code (s : String) : InlineOnly [.code s] := by
  simp [InlineOnly, Node.events]

@[simp] theorem inlineOnly_html (s : String) : InlineOnly [.html s] := by
  simp [InlineOnly, Node.events]

@[simp] theorem inlineOnly_softBreak : InlineOnly [.softBreak] := by
  simp [InlineOnly, Node.events]

@[simp] theorem inlineOnly_hardBreak : InlineOnly [.hardBreak] := by
  simp [InlineOnly, Node.events]

end

theorem inlineOnly_delimiterText (mark : Char) (count : Nat) :
    InlineOnly (delimiterText mark count) := by
  induction count with
  | zero => exact inlineOnly_nil
  | succ n ih => exact inlineOnly_cons.mpr ⟨inlineOnly_text _, ih⟩

/-- What all nodes of lists satisfy, the nodes of the lists together satisfy. -/
theorem inlineOnly_flatMap {α : Type} {f : α → List Node} {as : List α}
    (h : ∀ a ∈ as, InlineOnly (f a)) : InlineOnly (as.flatMap f) := by
  induction as with
  | nil => exact inlineOnly_nil
  | cons a as ih =>
    obtain ⟨ha, hr⟩ := List.forall_mem_cons.mp h
    exact inlineOnly_append.mpr ⟨ha, ih hr⟩

namespace Pairing

/-- Pairing that holds elements of a line alone. -/
structure IsInline (p : Pairing) : Prop where
  nodes : InlineOnly p.nodes
  openers : ∀ o ∈ p.openers, InlineOnly o.after

theorem inlineOnly_opener {o : Opener} (h : InlineOnly o.after) : InlineOnly o.nodes :=
  inlineOnly_append.mpr ⟨inlineOnly_delimiterText _ _, h⟩

theorem IsInline.add {p : Pairing} {nodes : List Node} (h : p.IsInline) (hn : InlineOnly nodes) :
    (p.add nodes).IsInline := by
  obtain ⟨before, openers, bounds⟩ := p
  cases openers with
  | nil => exact ⟨inlineOnly_append.mpr ⟨h.nodes, hn⟩, h.openers⟩
  | cons o outer =>
    obtain ⟨ho, hr⟩ := List.forall_mem_cons.mp h.openers
    exact ⟨h.nodes, List.forall_mem_cons.mpr ⟨inlineOnly_append.mpr ⟨ho, hn⟩, hr⟩⟩

/-- A match stands between the openers above it and those below it. -/
theorem split_some {fitting : Opener → Bool} {bound : Nat} {openers above below : List Opener}
    {found : Opener} (h : split fitting bound openers = some (above, found, below)) :
    openers = above ++ found :: below := by
  induction openers generalizing above with
  | nil => simp [split] at h
  | cons o outer ih =>
    unfold split at h
    split at h
    · simp at h
    · split at h
      · obtain ⟨rfl, rfl, rfl⟩ : [] = above ∧ o = found ∧ outer = below := by simpa using h
        rfl
      · obtain ⟨⟨more, _, _⟩, hs, he⟩ := Option.map_eq_some_iff.mp h
        obtain ⟨rfl, rfl, rfl⟩ := by simpa using he
        rw [ih hs]
        rfl

theorem inlineOnly_wrap (n : Nat) {nodes : List Node} (h : InlineOnly nodes) :
    InlineOnly (wrap n nodes) := by
  fun_induction wrap n nodes with
  | case1 nodes => exact h
  | case2 nodes => exact inlineOnly_element.mpr ⟨rfl, h⟩
  | case3 n nodes ih => exact ih (inlineOnly_element.mpr ⟨rfl, h⟩)

theorem IsInline.closeRun {p : Pairing} (h : p.IsInline) (mark : Char) (both : Bool)
    (n count : Nat) : (closeRun mark both n count p).2.IsInline := by
  induction n generalizing count p with
  | zero => exact h
  | succ n ih =>
    unfold Pairing.closeRun
    split
    · exact h
    · dsimp only
      split
      · exact ⟨h.nodes, h.openers⟩
      · rename_i above found below hs
        have ho := h.openers
        rw [split_some hs] at ho
        simp only [List.mem_append, List.mem_cons] at ho
        have hi : InlineOnly (found.after ++ above.reverse.flatMap Opener.nodes) := by
          refine inlineOnly_append.mpr ⟨ho found (by simp), inlineOnly_flatMap fun o hm => ?_⟩
          exact inlineOnly_opener (ho o (.inl (List.mem_reverse.mp hm)))
        have hb : ∀ o ∈ below, InlineOnly o.after := fun o hm => ho o (by simp [hm])
        apply ih
        split
        · exact ⟨h.nodes, List.forall_mem_cons.mpr ⟨inlineOnly_wrap _ hi, hb⟩⟩
        · exact IsInline.add ⟨h.nodes, hb⟩ (inlineOnly_wrap _ hi)

end Pairing

/-- A part that holds elements of a line alone. -/
def Part.IsInline : Part → Prop
  | .node n => InlineOnly [n]
  | .delimiter .. => True

theorem isInline_textPart (s : List Char) : (textPart s).IsInline := inlineOnly_text _

theorem Pairing.IsInline.read {p : Pairing} (h : p.IsInline) {part : Part} (hp : part.IsInline) :
    (p.read part).IsInline := by
  cases part with
  | node n => exact h.add hp
  | delimiter mark count opens closes =>
    have hc : (if closes then Pairing.closeRun mark (opens && closes) count count p
        else (count, p)).2.IsInline := by
      split
      · exact h.closeRun mark _ count count
      · exact h
    unfold Pairing.read
    dsimp only
    generalize (if closes then Pairing.closeRun mark (opens && closes) count count p
      else (count, p)) = found at hc ⊢
    split
    · exact hc
    · split
      · exact ⟨hc.nodes, List.forall_mem_cons.mpr ⟨inlineOnly_nil, hc.openers⟩⟩
      · exact hc.add (inlineOnly_delimiterText _ _)

theorem inlineOnly_emphasize {parts : List Part} (h : ∀ part ∈ parts, part.IsInline) :
    InlineOnly (emphasize parts) := by
  have hr : ∀ p : Pairing, p.IsInline → (parts.foldl Pairing.read p).IsInline := by
    induction parts with
    | nil => exact fun p hp => hp
    | cons part parts ih =>
      obtain ⟨hp, hps⟩ := List.forall_mem_cons.mp h
      exact fun p hi => ih hps _ (hi.read hp)
  have hf := hr ⟨[], [], .none⟩ ⟨inlineOnly_nil, by simp⟩
  refine inlineOnly_append.mpr ⟨hf.nodes, inlineOnly_flatMap fun o hm => ?_⟩
  exact Pairing.inlineOnly_opener (hf.openers o (List.mem_reverse.mp hm))

namespace Reading

/-- A reading that holds elements of a line alone. -/
structure IsInline (r : Reading) : Prop where
  parts : ∀ part ∈ r.parts, part.IsInline
  brackets : ∀ b ∈ r.brackets, ∀ part ∈ b.after, part.IsInline

theorem IsInline.add {r : Reading} {parts : List Part} (h : r.IsInline)
    (hp : ∀ part ∈ parts, part.IsInline) : (r.add parts).IsInline := by
  obtain ⟨before, brackets⟩ := r
  cases brackets with
  | nil => exact ⟨List.forall_mem_append.mpr ⟨h.parts, hp⟩, h.brackets⟩
  | cons b outer =>
    obtain ⟨hb, hr⟩ := List.forall_mem_cons.mp h.brackets
    exact ⟨h.parts, List.forall_mem_cons.mpr ⟨List.forall_mem_append.mpr ⟨hb, hp⟩, hr⟩⟩

theorem IsInline.addOne {r : Reading} {part : Part} (h : r.IsInline) (hp : part.IsInline) :
    (r.add [part]).IsInline :=
  h.add (by simpa using hp)

theorem isInline_bracket {b : OpenBracket} (h : ∀ part ∈ b.after, part.IsInline) :
    ∀ part ∈ b.parts, part.IsInline :=
  List.forall_mem_cons.mpr ⟨isInline_textPart _, h⟩

theorem IsInline.addLink {r : Reading} (h : r.IsInline) (target : Target) :
    (r.addLink target).IsInline := by
  obtain ⟨before, brackets⟩ := r
  cases brackets with
  | nil => exact h
  | cons b outer =>
    obtain ⟨hb, hr⟩ := List.forall_mem_cons.mp h.brackets
    have hi : ∀ b' ∈ (if b.isImage then outer
        else outer.map fun o => if o.isImage then o else { o with isDisabled := true }),
        ∀ part ∈ b'.after, part.IsInline := by
      split
      · exact hr
      · intro b' hm
        obtain ⟨o, ho, rfl⟩ := List.mem_map.mp hm
        split <;> exact hr o ho
    refine IsInline.addOne ⟨h.parts, hi⟩ (inlineOnly_element.mpr ⟨?_, inlineOnly_emphasize hb⟩)
    split <;> rfl

theorem IsInline.giveUp {r : Reading} (h : r.IsInline) (closing : Piece) :
    (r.giveUp closing).IsInline := by
  obtain ⟨before, brackets⟩ := r
  cases brackets with
  | nil => exact h.addOne (isInline_textPart _)
  | cons b outer =>
    obtain ⟨hb, hr⟩ := List.forall_mem_cons.mp h.brackets
    refine IsInline.add ⟨h.parts, hr⟩ (List.forall_mem_append.mpr ⟨isInline_bracket hb, ?_⟩)
    simpa using isInline_textPart closing.source

theorem IsInline.finish {r : Reading} (h : r.IsInline) : ∀ part ∈ r.finish, part.IsInline := by
  refine List.forall_mem_append.mpr ⟨h.parts, fun part hm => ?_⟩
  obtain ⟨b, hb, hm⟩ := List.mem_flatMap.mp hm
  exact isInline_bracket (h.brackets b (List.mem_reverse.mp hb)) part hm

end Reading

/-- A piece that is no node with elements other than those of a line. -/
def Piece.IsInline (p : Piece) : Prop := ∀ n, p.mark = .node n → InlineOnly [n]

def ArePieces (pieces : List Piece) : Prop := ∀ p ∈ pieces, p.IsInline

section

variable {pieces : List Piece}

theorem ArePieces.piecesBeyond (h : ArePieces pieces) (place : Place) :
    ArePieces (piecesBeyond place pieces) :=
  fun p hp => h p ((List.dropWhile_suffix _).subset hp)

theorem ArePieces.piecesFrom (h : ArePieces pieces) (place : Place) :
    ArePieces (piecesFrom place pieces) := by
  have hb := h.piecesBeyond place
  unfold Markdown.piecesFrom
  split
  · simp [ArePieces]
  · rename_i p rest he
    obtain ⟨hp, hr⟩ := List.forall_mem_cons.mp (he ▸ hb)
    exact List.forall_mem_cons.mpr ⟨hp, hr⟩

theorem splitAtTicks_suffix {count : Nat} {inside after : List Piece} {close : Piece}
    (h : splitAtTicks count pieces = some (inside, close, after)) : after <:+ pieces := by
  fun_induction splitAtTicks count pieces generalizing inside
  case case1 => simp at h
  case case2 p rest isMatch hm =>
    obtain ⟨-, -, rfl⟩ : [] = inside ∧ p = close ∧ rest = after := by simpa using h
    exact List.suffix_cons _ _
  case case3 p rest isMatch hm ih =>
    obtain ⟨⟨_, _, _⟩, hs, he⟩ := Option.map_eq_some_iff.mp h
    obtain ⟨-, rfl, rfl⟩ := by simpa using he
    exact (ih hs).trans (List.suffix_cons _ _)

theorem readTicks_isInline (p : Piece) (count : Nat) (isEscaped : Bool) (h : ArePieces pieces) :
    (∀ part ∈ (readTicks p count isEscaped pieces).1, part.IsInline) ∧
      ArePieces (readTicks p count isEscaped pieces).2 := by
  have ht : ∀ part ∈ [textPart p.source], part.IsInline := by
    simpa using isInline_textPart p.source
  have hc : ∀ s, (Part.node (.code s)).IsInline := inlineOnly_code
  simp only [readTicks]
  generalize (if isEscaped then count - 1 else count) = searched
  split
  · exact ⟨ht, h⟩
  · split
    · exact ⟨ht, h⟩
    · rename_i inside close after hs
      refine ⟨?_, fun q hq => h q ((splitAtTicks_suffix hs).subset hq)⟩
      split
      · simp [isInline_textPart, hc]
      · simp [hc]

theorem readAngle_isInline (around : Surroundings) (p : Piece) (h : ArePieces pieces) :
    (readAngle around p pieces).1.IsInline ∧ ArePieces (readAngle around p pieces).2 := by
  unfold readAngle
  split
  · exact ⟨isInline_textPart _, h⟩
  · dsimp only
    split
    · exact ⟨inlineOnly_element.mpr ⟨rfl, inlineOnly_text _⟩, h.piecesFrom _⟩
    · split
      · exact ⟨inlineOnly_html _, h.piecesFrom _⟩
      · exact ⟨isInline_textPart _, h⟩

theorem reference_arePieces {around : Surroundings} {opening closing : Piece} {tried : Bool}
    {found : Reference} (h : ArePieces pieces)
    (hf : reference? around opening closing tried pieces = some found) :
    ArePieces found.after ∧ ArePieces found.otherwise := by
  unfold reference? at hf
  dsimp only at hf
  split at hf
  · split at hf
    · simp at hf
    · obtain rfl := Option.some.inj hf
      exact ⟨h, h⟩
  · rename_i next more
    split at hf
    · split at hf
      · simp at hf
      · obtain rfl := Option.some.inj hf
        exact ⟨fun p hp => h p (by simp [List.mem_of_mem_drop hp]), h⟩
    · split at hf
      · split at hf
        · simp at hf
        · obtain rfl := Option.some.inj hf
          exact ⟨h, h⟩
      · rename_i label after hl
        have hb := h.piecesBeyond (around.placeOf next.start
          ((around.visible next.start).drop ((around.visible next.start).length - after.length - 1)))
        split at hf
        · simp at hf
        · rename_i closer behind he
          rw [he] at hb
          obtain ⟨-, hb⟩ := List.forall_mem_cons.mp hb
          obtain rfl := Option.some.inj hf
          refine ⟨hb, List.forall_mem_append.mpr ⟨fun p hp => h p (List.mem_of_mem_take hp), ?_⟩⟩
          exact List.forall_mem_cons.mpr ⟨by simp [Piece.IsInline], hb⟩

theorem closeBracket_isInline {around : Surroundings} {r : Reading} (closing : Piece)
    (tried : Bool) (h : ArePieces pieces) (hr : r.IsInline) :
    (closeBracket around closing tried pieces r).1.IsInline ∧
      ArePieces (closeBracket around closing tried pieces r).2 := by
  have hg := hr.giveUp closing
  unfold closeBracket
  split
  · exact ⟨hg, h⟩
  · split
    · exact ⟨hg, h⟩
    · split
      · exact ⟨hr.addLink _, h.piecesFrom _⟩
      · split
        · exact ⟨hg, h⟩
        · rename_i found hf
          obtain ⟨ha, ho⟩ := reference_arePieces h hf
          split
          · exact ⟨hr.addLink _, ha⟩
          · exact ⟨hg, ho⟩

/-- Reading pieces of a line finds elements of a line alone. -/
theorem readPieces_isInline (around : Surroundings) (n : Nat) (h : ArePieces pieces) {r : Reading}
    (hr : r.IsInline) : (readPieces around n pieces r).IsInline := by
  induction n generalizing pieces r with
  | zero => exact hr
  | succ n ih =>
    cases pieces with
    | nil => exact hr
    | cons p rest =>
      obtain ⟨hp, hs⟩ := List.forall_mem_cons.mp h
      unfold readPieces
      cases hm : p.mark with
      | text => exact ih hs (hr.addOne (isInline_textPart _))
      | given s => exact ih hs (hr.addOne (isInline_textPart _))
      | html => exact ih hs (hr.addOne (inlineOnly_html _))
      | softBreak => exact ih hs (hr.addOne inlineOnly_softBreak)
      | hardBreak => exact ih hs (hr.addOne inlineOnly_hardBreak)
      | node node => exact ih hs (hr.addOne (hp node hm))
      | delimiter mark count opens closes => exact ih hs (hr.addOne trivial)
      | ticks count isEscaped =>
        obtain ⟨ht, ha⟩ := readTicks_isInline p count isEscaped hs
        exact ih ha (hr.add ht)
      | angle =>
        obtain ⟨ht, ha⟩ := readAngle_isInline around p hs
        exact ih ha (hr.addOne ht)
      | bracket isImage => exact ih hs ⟨hr.parts, List.forall_mem_cons.mpr ⟨by simp, hr.brackets⟩⟩
      | closing tried =>
        obtain ⟨ht, ha⟩ := @closeBracket_isInline rest around r p tried hs hr
        exact ih ha ht

theorem inlineOnly_inlines (around : Surroundings) (h : ArePieces pieces) :
    InlineOnly (inlines around pieces) :=
  inlineOnly_emphasize (readPieces_isInline around _ h ⟨by simp, by simp⟩).finish

end

theorem beginning_ne_node {before : Char} {s : Place} {skipped length : Nat} {mark : Mark}
    (h : beginning before s = .piece skipped length mark) (n : Node) : mark ≠ .node n := by
  rintro rfl
  unfold beginning at h
  dsimp only at h
  repeat' split at h
  all_goals simp at h

theorem arePieces_text (start stop : Place) (length : Nat) :
    ArePieces (Piece.text? start stop length) := by
  unfold Piece.text?
  split <;> simp [ArePieces, Piece.IsInline]

/-- No piece that a line is cut into is a finished node. -/
theorem arePieces_cutWithin (n left : Nat) (before : Char) (plain : Nat) (mark s : Place) :
    ArePieces (cutWithin n left before plain mark s) := by
  induction n generalizing left before plain mark s with
  | zero => exact arePieces_text _ _ _
  | succ n ih =>
    unfold cutWithin
    split
    · exact arePieces_text _ _ _
    · dsimp only
      split
      · exact ih _ _ _ _ _
      · exact List.forall_mem_append.mpr ⟨arePieces_text _ _ _, ih _ _ _ _ _⟩
      · rename_i skipped length kind hb
        refine List.forall_mem_append.mpr ⟨arePieces_text _ _ _, ?_⟩
        exact List.forall_mem_cons.mpr
          ⟨fun node hn => absurd hn (beginning_ne_node hb node), ih _ _ _ _ _⟩

theorem arePieces_textLine (before : Char) (s : Place) : ArePieces (textLine before s).pieces := by
  unfold textLine
  dsimp only
  split <;> exact arePieces_cutWithin _ _ _ _ _ _

theorem ArePieces.appendText {pieces : List Piece} (h : ArePieces pieces) (start stop : Place) :
    ArePieces (appendText pieces start stop) := by
  have ht : ∀ p ∈ [Piece.mk start stop .text], p.IsInline := by simp [Piece.IsInline]
  unfold Markdown.appendText
  split
  · rename_i p hl
    split
    · refine List.forall_mem_append.mpr ⟨fun q hq => h q (List.dropLast_subset _ hq), ?_⟩
      exact List.forall_mem_singleton.mpr (h p (List.mem_of_getLast? hl))
    · exact List.forall_mem_append.mpr ⟨h, ht⟩
  · exact ht

theorem ArePieces.appendBackslash {pieces : List Piece} (h : ArePieces pieces) (line : TextLine) :
    ArePieces (appendBackslash line pieces) := by
  unfold Markdown.appendBackslash
  split
  · exact h.appendText _ _
  · exact h

theorem ArePieces.endLastAt {pieces : List Piece} (h : ArePieces pieces) (stop : Piece → Place) :
    ArePieces (endLastAt stop pieces) := by
  unfold Markdown.endLastAt
  split
  · simp [ArePieces]
  · rename_i p hl
    refine List.forall_mem_append.mpr ⟨fun q hq => h q (List.dropLast_subset _ hq), ?_⟩
    exact List.forall_mem_singleton.mpr (h p (List.mem_of_getLast? hl))

/-- A heading is made of the pieces of its line. -/
theorem numberSignHeading_eq (level : Nat) (start : Place) :
    ∃ pieces, ArePieces pieces ∧ (numberSignHeading level start).1 =
      .ofPieces (.heading level) start (numberSignHeading level start).2 pieces := by
  unfold numberSignHeading
  dsimp only
  split
  · exact ⟨[], by simp [ArePieces], rfl⟩
  · exact ⟨_, ((arePieces_textLine _ _).appendBackslash _).endLastAt _, rfl⟩

end EditorBridge.Markdown
