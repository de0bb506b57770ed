import EditorBridge.Proofs.FaceNesting
import Mathlib.Algebra.GroupWithZero.Nat
import Mathlib.Data.List.Induction

/-!
The marks of list items. A reader keeps one entry for each open list, and the entry of an ordered
list holds the number of its next item. In a document with items only directly inside lists, reading
never fails for want of an entry or of room for a number, and each item is marked on a line of its
own, numbered on from the first number of its list, whatever stands inside the items before it.
-/

namespace EditorBridge

namespace Markdown

/-! ### Documents with lists -/

def Tag.isList : Tag → Bool
  | .list _ => true
  | _ => false

def Node.isItem : Node → Bool
  | .element .item _ => true
  | _ => false

/-- Whether an element is no ordered list, or one that begins with a number of nine digits at
most. -/
def Tag.startsLow : Tag → Bool
  | .list (some start) => start < 10 ^ 9
  | _ => true

mutual

/-- Whether a node keeps items directly inside lists, if it stands directly inside a list or not,
and the lists in it start low. -/
def Node.isListed (inList : Bool) : Node → Bool
  | .element tag children =>
    (inList || tag != .item) && tag.startsLow && areListed tag.isList children
  | _ => true

/-- Whether nodes keep items directly inside lists, if they stand directly inside a list or not, and
the lists in them start low. -/
def areListed (inList : Bool) : List Node → Bool
  | [] => true
  | n :: rest => n.isListed inList && areListed inList rest

end

@[simp] theorem areListed_cons (inList : Bool) (n : Node) (rest : List Node) :
    areListed inList (n :: rest) = (n.isListed inList && areListed inList rest) := rfl

theorem isListed_element (inList : Bool) (tag : Tag) (children : List Node) :
    (Node.element tag children).isListed inList = true ↔
      (tag = .item → inList = true) ∧ tag.startsLow = true ∧
        areListed tag.isList children = true := by
  rw [Node.isListed]
  cases inList <;> simp [and_assoc]

theorem areListed_append (inList : Bool) (xs ys : List Node) :
    areListed inList (xs ++ ys) = (areListed inList xs && areListed inList ys) := by
  induction xs with
  | nil => rfl
  | cons n xs ih => simp [ih, Bool.and_assoc]

theorem length_le_length_eventsOf (nodes : List Node) : nodes.length ≤ (eventsOf nodes).length := by
  induction nodes with
  | nil => exact Nat.le_refl _
  | cons n rest ih =>
    obtain ⟨e, events, he, -⟩ := n.events_head
    simp [he]
    omega

/-- No item stands directly among nodes outside of lists. -/
theorem countP_isItem_outside {nodes : List Node} (h : areListed false nodes = true) :
    nodes.countP Node.isItem = 0 := by
  induction nodes with
  | nil => rfl
  | cons n rest ih =>
    obtain ⟨hn, hr⟩ := Bool.and_eq_true_iff.mp h
    rw [List.countP_cons, ih hr]
    cases n with
    | element tag children =>
      have hi : tag ≠ .item := fun he => by simpa using ((isListed_element ..).mp hn).1 he
      cases tag <;> first | exact absurd rfl hi | rfl
    | _ => rfl

/-- A node in a document with lists stands directly inside a list or keeps items away. -/
theorem Stands.isListed {n : Node} {before : List Event} {around : List Tag} {nodes : List Node}
    (h : Stands n before around nodes) {inList : Bool} (hl : areListed inList nodes = true) :
    n.isListed ((around.getLast?.map Tag.isList).getD inList) = true := by
  induction h generalizing inList with
  | here rest => exact (Bool.and_eq_true_iff.mp hl).1
  | later first _ ih => exact ih (Bool.and_eq_true_iff.mp hl).2
  | @inside tag children rest before around _ ih =>
    have hc := ((isListed_element ..).mp (Bool.and_eq_true_iff.mp hl).1).2.2
    simpa [List.getLast?_cons] using ih hc

/-- An item stands directly inside a list. -/
theorem Stands.exists_list {inner nodes : List Node} {before : List Event} {around : List Tag}
    (h : Stands (.element .item inner) before around nodes) (hl : areListed false nodes = true) :
    ∃ outer start, around = outer ++ [.list start] := by
  have hi := ((isListed_element ..).mp (h.isListed hl)).1 rfl
  obtain rfl | ⟨outer, tag, rfl⟩ := List.eq_nil_or_concat around
  · simp at hi
  · cases tag with
    | list start => exact ⟨outer, start, List.concat_eq_append⟩
    | _ => simp [Tag.isList] at hi

def Event.beginsList : Event → Bool
  | .enter tag => tag.isList
  | _ => false

def Event.endsList : Event → Bool
  | .leave tag => tag.isList
  | _ => false

def listStarts (events : List Event) : Nat := events.countP Event.beginsList

def listEnds (events : List Event) : Nat := events.countP Event.endsList

@[simp] theorem listStarts_nil : listStarts [] = 0 := rfl

@[simp] theorem listEnds_nil : listEnds [] = 0 := rfl

@[simp] theorem listStarts_cons (e : Event) (events : List Event) :
    listStarts (e :: events) = listStarts events + e.beginsList.toNat := by
  cases h : e.beginsList <;> simp [listStarts, h]

@[simp] theorem listEnds_cons (e : Event) (events : List Event) :
    listEnds (e :: events) = listEnds events + e.endsList.toNat := by
  cases h : e.endsList <;> simp [listEnds, h]

@[simp] theorem listStarts_append (xs ys : List Event) :
    listStarts (xs ++ ys) = listStarts xs + listStarts ys := List.countP_append

@[simp] theorem listEnds_append (xs ys : List Event) :
    listEnds (xs ++ ys) = listEnds xs + listEnds ys := List.countP_append

/-- A leaf begins no list and ends none. -/
theorem listStarts_leaf {n : Node} (h : n.isLeaf = true) :
    listStarts n.events = 0 ∧ listEnds n.events = 0 := by
  cases n with
  | element tag children => simp [Node.isLeaf] at h
  | _ => exact ⟨rfl, rfl⟩

/-- Every list that begins among nodes ends there. -/
theorem listEnds_eventsOf (nodes : List Node) :
    listEnds (eventsOf nodes) = listStarts (eventsOf nodes) := by
  induction nodes using Node.induct with
  | nil => rfl
  | element tag children rest ihc ihr =>
    simp [Node.events, ihc, ihr, Event.beginsList, Event.endsList]
    omega
  | leaf n rest hn ih =>
    obtain ⟨hs, he⟩ := listStarts_leaf hn
    simp [hs, he, ih]

/-- No more lists have ended than begun. -/
theorem listEnds_le {nodes : List Node} {p : List Event} (h : p <+: eventsOf nodes) :
    listEnds p ≤ listStarts p := by
  induction nodes using Node.induct generalizing p with
  | nil =>
    obtain rfl : p = [] := by simpa using h
    exact Nat.le_refl _
  | element tag children rest ihc ihr =>
    cases p with
    | nil => exact Nat.le_refl _
    | cons e p =>
      rw [eventsOf_cons, Node.events, List.cons_append, List.append_assoc] at h
      obtain ⟨rfl, ht⟩ := List.cons_prefix_cons.mp h
      obtain hc | ⟨q, rfl, hq⟩ := prefix_append_cases ht
      · have hi := ihc hc
        simp only [listEnds_cons, listStarts_cons, Event.endsList, Bool.toNat_false]
        omega
      · cases q with
        | nil => simp [listEnds_eventsOf, Event.endsList]
        | cons e q =>
          rw [List.singleton_append] at hq
          obtain ⟨rfl, hr⟩ := List.cons_prefix_cons.mp hq
          have hi := ihr hr
          simp [listEnds_eventsOf, Event.beginsList, Event.endsList]
          omega
  | leaf n rest hn ih =>
    obtain ⟨hs, he⟩ := listStarts_leaf hn
    obtain ⟨e, hn, -⟩ := n.events_leaf hn
    rw [eventsOf_cons] at h
    obtain hp | ⟨q, rfl, hq⟩ := prefix_append_cases h
    · have hz : listEnds p ≤ listEnds n.events := hp.countP_le
      omega
    · simpa [hs, he] using ih hq

end Markdown

namespace Markup

open Markdown

/-! ### The open lists -/

/-- The open lists when some items more of the innermost one have been read. -/
def advance (k : Nat) (lists : List (Option Nat)) : List (Option Nat) :=
  lists.modifyHead (·.map (· + k))

@[simp] theorem advance_nil (k : Nat) : advance k [] = [] := rfl

@[simp] theorem advance_cons (k : Nat) (start : Option Nat) (outer : List (Option Nat)) :
    advance k (start :: outer) = start.map (· + k) :: outer := rfl

@[simp] theorem length_advance (k : Nat) (lists : List (Option Nat)) :
    (advance k lists).length = lists.length := List.length_modifyHead

@[simp] theorem advance_zero (lists : List (Option Nat)) : advance 0 lists = lists := by
  cases lists with
  | nil => rfl
  | cons start outer => simp

theorem advance_advance (j k : Nat) (lists : List (Option Nat)) :
    advance k (advance j lists) = advance (j + k) lists := by
  cases lists with
  | nil => rfl
  | cons start outer => cases start <;> simp [Nat.add_assoc]

theorem itemMark_lists (lists : List (Option Nat)) : (itemMark lists).2 = advance 1 lists := by
  match lists with
  | [] | none :: _ | some _ :: _ => rfl

/-- What an element makes of the open lists when it begins. -/
theorem lists_enter (ctx : Context) (tag : Tag) :
    (read ctx (.enter tag)).1.lists =
      match tag with
      | .list start => start :: ctx.lists
      | .item => advance 1 ctx.lists
      | _ => ctx.lists := by
  cases tag with
  | item => exact itemMark_lists ctx.lists
  | _ => rfl

/-- What an element makes of the open lists when it ends. -/
theorem lists_leave (ctx : Context) (tag : Tag) :
    (read ctx (.leave tag)).1.lists = if tag.isList then ctx.lists.tail else ctx.lists := by
  cases tag <;> rfl

theorem lists_leaf (ctx : Context) {n : Node} (h : n.isLeaf = true) :
    (ctx.after n.events).lists = ctx.lists := by
  obtain ⟨begun, hb⟩ := after_leaf ctx h
  rw [hb]

/-- Behind nodes the innermost open list has moved on by the items among them, and the others stay
as they were: whatever is inside an item has closed its own lists. -/
theorem lists_after {nodes : List Node} {inList : Bool} (h : areListed inList nodes = true)
    (ctx : Context) :
    (ctx.after (eventsOf nodes)).lists = advance (nodes.countP Node.isItem) ctx.lists := by
  induction nodes using Node.induct generalizing inList ctx with
  | nil => simp [Context.after]
  | element tag children rest ihc ihr =>
    obtain ⟨hn, hr⟩ := Bool.and_eq_true_iff.mp h
    have hc := ((isListed_element ..).mp hn).2.2
    have he : (ctx.after (Node.element tag children).events).lists =
        advance (if (Node.element tag children).isItem then 1 else 0) ctx.lists := by
      rw [Node.events, Context.after, after_append, Context.after, Context.after, lists_leave,
        ihc hc, lists_enter]
      cases tag with
      | list start => simp [Tag.isList, Node.isItem]
      | item => simp [Tag.isList, Node.isItem, countP_isItem_outside hc]
      | _ => simp [Tag.isList, Node.isItem, countP_isItem_outside hc]
    rw [eventsOf_cons, after_append, ihr hr, he, advance_advance, List.countP_cons, Nat.add_comm]
  | leaf n rest hn ih =>
    have hi : n.isItem = false := by
      cases n with
      | element tag children => simp [Node.isLeaf] at hn
      | _ => rfl
    rw [eventsOf_cons, after_append, ih (Bool.and_eq_true_iff.mp h).2, lists_leaf ctx hn,
      List.countP_cons]
    simp [hi]

/-- One event opens a list, closes the innermost one, or leaves their number as it is. -/
theorem length_lists_read (ctx : Context) (e : Event) :
    (read ctx e).1.lists.length = ctx.lists.length + e.beginsList.toNat - e.endsList.toNat := by
  cases e with
  | enter tag =>
    rw [lists_enter]
    cases tag <;> simp [Event.beginsList, Event.endsList, Tag.isList]
  | leave tag =>
    rw [lists_leave]
    cases tag <;> simp [Event.beginsList, Event.endsList, Tag.isList]
  | text s =>
    simp only [read]
    split <;> rfl
  | _ => rfl

/-- At every place in a document there is one entry for each list that has begun and not ended. -/
theorem length_lists_prefix {nodes : List Node} {p : List Event} (h : p <+: eventsOf nodes)
    (ctx : Context) :
    (ctx.after p).lists.length + listEnds p = ctx.lists.length + listStarts p := by
  induction p using List.reverseRecOn with
  | nil => rfl
  | append_singleton p e ih =>
    have hi := ih ((List.prefix_append p [e]).trans h)
    have hl := listEnds_le h
    have hs := length_lists_read (ctx.after p) e
    rw [after_append, Context.after, Context.after]
    simp at hl ⊢
    omega

theorem length_lists_nodes (nodes : List Node) (ctx : Context) :
    (ctx.after (eventsOf nodes)).lists.length = ctx.lists.length := by
  have h := length_lists_prefix (List.prefix_refl (eventsOf nodes)) ctx
  rwa [listEnds_eventsOf, Nat.add_right_cancel_iff] at h

/-- At a node there is one entry for each list around it. -/
theorem length_lists_before {n : Node} {before : List Event} {around : List Tag}
    {nodes : List Node} (h : Stands n before around nodes) (ctx : Context) :
    (ctx.after before).lists.length = ctx.lists.length + around.countP Tag.isList := by
  induction h generalizing ctx with
  | here rest => rfl
  | later first _ ih =>
    have hf := length_lists_nodes [first] ctx
    rw [eventsOf_cons, eventsOf_nil, List.append_nil] at hf
    rw [after_append, ih, hf]
  | @inside tag children rest before around _ ih =>
    rw [Context.after, ih, length_lists_read, List.countP_cons]
    cases h : tag.isList <;> simp [Event.beginsList, Event.endsList, h]
    omega

/-- At a node directly inside a list, the entry of that list has moved on by the items before. -/
theorem lists_inside {start : Option Nat} {n : Node} {pre post nodes : List Node}
    {before : List Event} {around : List Tag}
    (h : Stands (.element (.list start) (pre ++ n :: post)) before around nodes)
    (hl : areListed false nodes = true) (ctx : Context) :
    (ctx.after (before ++ .enter (.list start) :: eventsOf pre)).lists =
      start.map (· + pre.countP Node.isItem) :: (ctx.after before).lists := by
  have hc := ((isListed_element ..).mp (h.isListed hl)).2.2
  rw [areListed_append, Bool.and_eq_true_iff] at hc
  rw [after_append, Context.after, lists_after hc.1, lists_enter, advance_cons]

/-! ### Reading with room for numbers -/

/-- Reads an event as far as the entries of the open lists allow: an item needs an entry, with room
in 64 bits for the number after its own, and the end of a list needs one. -/
def read? (ctx : Context) (event : Event) : Option (Context × List Span) :=
  match event, ctx.lists with
  | .enter .item, [] => none
  | .enter .item, some number :: _ =>
    if number + 1 < 2 ^ 64 then some (read ctx event) else none
  | .leave (.list _), [] => none
  | _, _ => some (read ctx event)

def spansFrom? (ctx : Context) : List Event → Option (List Span)
  | [] => some []
  | event :: rest => do
    let (ctx, spans) ← read? ctx event
    return spans ++ (← spansFrom? ctx rest)

def ofEvents? (events : List Event) : Option (List Char) :=
  (spansFrom? .start events).map fun spans => trimmed (write spans)

theorem read_item_eq_some {ctx : Context} {start : Option Nat} {outer : List (Option Nat)}
    (h : ctx.lists = start :: outer) (hs : ∀ number ∈ start, number + 1 < 2 ^ 64) :
    read? ctx (.enter .item) = some (read ctx (.enter .item)) := by
  cases start with
  | none => simp [read?, h]
  | some number =>
    have hn : number + 1 < 2 ^ 64 := hs number rfl
    simp only [read?, h, if_pos hn]

theorem read_leave_eq_some {ctx : Context} (h : ctx.lists ≠ []) (tag : Tag) :
    read? ctx (.leave tag) = some (read ctx (.leave tag)) := by
  cases hl : ctx.lists with
  | nil => exact absurd hl h
  | cons start outer => cases tag <;> simp [read?, hl]

/-- Where each event can be read, all of them are. -/
theorem spansFrom_eq_some {ctx : Context} {events : List Event}
    (h : ∀ p e, p ++ [e] <+: events → read? (ctx.after p) e = some (read (ctx.after p) e)) :
    spansFrom? ctx events = some (spansFrom ctx events) := by
  induction events generalizing ctx with
  | nil => rfl
  | cons event rest ih =>
    have hr := @ih (read ctx event).1 fun p e hp => h (event :: p) e (by simpa using hp)
    have he := h [] event (by simp)
    rw [Context.after] at he
    simp [spansFrom?, spansFrom, he, hr]

/-- The numbers in the entry of a list at an item have room to grow by one. -/
theorem number_lt {nodes pre post : List Node} {n : Node} {start : Option Nat}
    {before : List Event} {around : List Tag}
    (h : Stands (.element (.list start) (pre ++ n :: post)) before around nodes)
    (hl : areListed false nodes = true) (hs : (eventsOf nodes).length < 2 ^ 63) :
    ∀ number ∈ start.map (· + pre.countP Node.isItem), number + 1 < 2 ^ 64 := by
  intro number hn
  obtain ⟨first, rfl, rfl⟩ := Option.map_eq_some_iff.mp hn
  have hf : first < 10 ^ 9 := by
    simpa [Tag.startsLow] using ((isListed_element ..).mp (h.isListed hl)).2.1
  have hp : pre.countP Node.isItem ≤ (eventsOf pre).length :=
    Nat.le_trans List.countP_le_length (length_le_length_eventsOf pre)
  have he := h.events_prefix.length_le
  simp [Node.events] at he
  omega

/-- Every event of a document with lists can be read. -/
theorem read_eq_some {nodes : List Node} (hl : areListed false nodes = true)
    (hs : (eventsOf nodes).length < 2 ^ 63) {p : List Event} {e : Event}
    (hp : p ++ [e] <+: eventsOf nodes) :
    read? (Context.start.after p) e = some (read (Context.start.after p) e) := by
  cases e with
  | enter tag =>
    cases tag with
    | item =>
      obtain ⟨inner, around, hi⟩ := exists_stands_of_enter hp
      obtain ⟨outer, start, rfl⟩ := hi.exists_list hl
      obtain ⟨pre, post, front, ho, rfl⟩ := hi.parent
      exact read_item_eq_some (lists_inside ho hl .start) (number_lt ho hl hs)
    | _ => rfl
  | leave tag =>
    cases tag with
    | list start =>
      -- The entry that is taken away is there, as there is one for each list that has not ended.
      refine read_leave_eq_some (List.ne_nil_of_length_pos ?_) _
      have hb := length_lists_prefix ((List.prefix_append p _).trans hp) .start
      have he := listEnds_le hp
      simp [Event.beginsList, Event.endsList, Tag.isList] at he
      omega
    | _ => rfl
  | _ => rfl

theorem ofEvents_eq_some {nodes : List Node} (hl : areListed false nodes = true)
    (hs : (eventsOf nodes).length < 2 ^ 63) :
    ofEvents? (eventsOf nodes) = some (ofEvents (eventsOf nodes)) := by
  rw [ofEvents?, spansFrom_eq_some fun p e hp => read_eq_some hl hs hp]
  rfl

/-! ### Marks in the markup -/

def markAt (start : Option Nat) (k : Nat) : List Char :=
  match start with
  | some number => Nat.toDigits 10 (number + k) ++ ['.', ' ']
  | none => ['-', ' ']

/-- What begins an item inside some lists: a new line, the indent, and the mark in the face of
bullets before the face of the text. -/
def markerText (depth : Nat) (mark : List Char) (face : Face) : List Char :=
  '\n' :: List.replicate (2 * depth) ' ' ++ tagOf Face.bullet.name.toList ++ mark ++
    tagOf face.name.toList

theorem itemMark_cons (start : Option Nat) (k : Nat) (outer : List (Option Nat)) :
    (itemMark (start.map (· + k) :: outer)).1 = markAt start k := by
  cases start <;> rfl

theorem write_item (ctx : Context) :
    write (read ctx (.enter .item)).2 =
      markerText ctx.lists.length (itemMark ctx.lists).1 ctx.face := by
  simp [read, enter, Span.write, markerText]

/-- The outermost list writes a line feed when it ends. -/
theorem newLine_mem_read {ctx : Context} {e : Event} (h : ctx.lists ≠ [])
    (he : (read ctx e).1.lists = []) : newLine ∈ (read ctx e).2 := by
  have hl := length_lists_read ctx e
  have hp := List.length_pos_iff.mpr h
  rw [he, List.length_nil] at hl
  have hends : e.endsList = true := by
    cases hn : e.endsList with
    | true => rfl
    | false =>
      rw [hn, Bool.toNat_false] at hl
      omega
  cases e with
  | leave tag =>
    cases tag with
    | list start =>
      have ht : ctx.lists.tail = [] := he
      simp [read, leave, ht]
    | _ => exact absurd hends Bool.false_ne_true
  | _ => exact absurd hends Bool.false_ne_true

theorem newLine_mem_spansFrom {ctx : Context} {events : List Event} (h : ctx.lists ≠ [])
    (he : (ctx.after events).lists = []) : newLine ∈ spansFrom ctx events := by
  induction events generalizing ctx with
  | nil => exact absurd he h
  | cons e events ih =>
    rw [spansFrom, List.mem_append]
    by_cases hr : (read ctx e).1.lists = []
    · exact .inl (newLine_mem_read h hr)
    · exact .inr (ih hr he)

theorem newline_mem_write {spans : List Span} (h : newLine ∈ spans) : '\n' ∈ write spans :=
  List.mem_flatMap.mpr ⟨newLine, h, by simp [newLine, Span.write]⟩

theorem exists_of_append_eq {α : Type} {xs back ys zs : List α} {c : α}
    (h : xs ++ back = ys ++ c :: zs) (hc : c ∉ back) : ∃ rest, xs = ys ++ c :: rest := by
  obtain ⟨a, rfl, ha⟩ | ⟨a, rfl, ha⟩ := List.append_eq_append_iff.mp h
  · exact absurd (by simp [ha]) hc
  · cases a with
    | nil =>
      obtain rfl : c :: zs = back := ha
      exact absurd List.mem_cons_self hc
    | cons d a =>
      obtain ⟨rfl, -⟩ := List.cons.inj ha
      exact ⟨a, rfl⟩

/-- What is left out of markup at its ends: white space at the beginning, and nothing up to a
character that is no white space and has a line feed behind it. -/
theorem exists_trimmed (markup : List Char) :
    ∃ front back, markup = front ++ trimmed markup ++ back ∧ (∀ c ∈ front, Text.isBlank c) ∧
      ∀ s c rest, markup = s ++ c :: rest → Text.isBlank c = false → '\n' ∈ rest →
        ∃ rest', front ++ trimmed markup = s ++ c :: rest' := by
  obtain ⟨body, tail, hb, ht, hn⟩ : ∃ body tail, markup = body ++ tail ∧
      trimmed markup = Text.trim body ∧ '\n' ∉ tail := by
    by_cases hs : tagOf defaultTag <:+ markup
    · obtain ⟨u, rfl⟩ := hs
      exact ⟨u, _, rfl, trimmed_append u, by decide⟩
    · exact ⟨markup, [], by simp, trimmed_of_not_suffix hs, by simp⟩
  obtain ⟨front, back, he, hf, hk⟩ := Text.exists_trimWhile Text.isBlank body
  refine ⟨front, back ++ tail, ?_, hf, ?_⟩
  · rw [ht, Text.trim, ← List.append_assoc, ← he, hb]
  · rintro s c rest hm hc hr
    obtain ⟨x, y, rfl⟩ := List.append_of_mem hr
    have hx : body ++ tail = (s ++ c :: x) ++ '\n' :: y := by simp [← hb, hm]
    obtain ⟨z, hz⟩ := exists_of_append_eq hx hn
    have hy : front ++ Text.trimWhile Text.isBlank body ++ back = s ++ c :: (x ++ '\n' :: z) := by
      rw [← he, hz, List.append_assoc, List.cons_append]
    have hcb : c ∉ back := fun hm => by simp [hk c hm] at hc
    rw [ht]
    exact exists_of_append_eq hy hcb

/-- What is written up to the mark of an item is written before white space at the end and the tag
of the default face: behind the mark a list ends. -/
theorem write_upTo_item {start : Option Nat} {inner pre post nodes : List Node}
    {before : List Event} {around : List Tag}
    (h : Stands (.element (.list start) (pre ++ .element .item inner :: post)) before around nodes)
    (hl : areListed false nodes = true) :
    ∃ rest face, '\n' ∈ rest ∧ write (spansOf (eventsOf nodes)) =
      write (spansOf (before ++ .enter (.list start) :: eventsOf pre)) ++
        markerText (around.countP Tag.isList + 1) (markAt start (pre.countP Node.isItem)) face ++
        rest := by
  have hi := (stands_middle (.element .item inner) pre post).trans h
  obtain ⟨events, he⟩ := hi.events_prefix
  generalize hp : before ++ .enter (.list start) :: eventsOf pre = p at he
  obtain ⟨ctx, hc⟩ : ∃ ctx, ctx = Context.start.after p := ⟨_, rfl⟩
  have hls : ctx.lists =
      start.map (· + pre.countP Node.isItem) :: (Context.start.after before).lists := by
    rw [hc, ← hp, lists_inside h hl .start]
  have hd : (Context.start.after before).lists.length = around.countP Tag.isList := by
    simpa [Context.start] using length_lists_before h .start
  have hr : eventsOf nodes = p ++ .enter .item :: (eventsOf inner ++ .leave .item :: events) := by
    simp [← he, Node.events]
  have hn : newLine ∈
      spansFrom (read ctx (.enter .item)).1 (eventsOf inner ++ .leave .item :: events) := by
    refine newLine_mem_spansFrom ?_ ?_
    · simp [lists_enter, hls]
    · have hz := lists_after hl .start
      rw [hr, after_append, ← hc, Context.after] at hz
      simpa [Context.start] using hz
  refine ⟨_, ctx.face, newline_mem_write hn, ?_⟩
  rw [hr, spansOf, spansFrom_append, ← hc, spansFrom, write_append, write_append, write_item, hls,
    itemMark_cons, List.length_cons, hd, ← spansOf, List.append_assoc]

structure MarksItems (nodes : List Node) : Prop where
  /-- Every event can be read. -/
  readable : ofEvents? (eventsOf nodes) = some (ofEvents (eventsOf nodes))
  /-- At every place there is one entry for each list that has begun and not ended. -/
  entries : ∀ p, p <+: eventsOf nodes →
    (Context.start.after p).lists.length + listEnds p = listStarts p
  /-- Behind what is written before it, and up to white space that is left out in front of the
  whole, each item of a list stands on a line of its own with its mark: the number of the list
  moved on by the items before it, or a bullet. -/
  marked : ∃ front back, write (spansOf (eventsOf nodes)) =
      front ++ ofEvents (eventsOf nodes) ++ back ∧ (∀ c ∈ front, Text.isBlank c) ∧
    ∀ start pre inner post before around,
      Stands (.element (.list start) (pre ++ .element .item inner :: post)) before around nodes →
      ∃ face rest, front ++ ofEvents (eventsOf nodes) =
        write (spansOf (before ++ .enter (.list start) :: eventsOf pre)) ++
          markerText (around.countP Tag.isList + 1) (markAt start (pre.countP Node.isItem)) face ++
          rest

/-- Items directly inside lists are numbered on and indented, and reading them never fails. -/
theorem marksItems_of_areListed {nodes : List Node} (hl : areListed false nodes = true)
    (hs : (eventsOf nodes).length < 2 ^ 63) : MarksItems nodes where
  readable := ofEvents_eq_some hl hs
  entries p hp := by simpa [Context.start] using length_lists_prefix hp .start
  marked := by
    obtain ⟨front, back, hw, hf, hk⟩ := exists_trimmed (write (spansOf (eventsOf nodes)))
    refine ⟨front, back, hw, hf, fun start pre inner post before around h => ?_⟩
    obtain ⟨rest, face, hn, he⟩ := write_upTo_item h hl
    -- The marker ends with a brace, which is kept as a list ends behind it.
    obtain ⟨s, hm⟩ : ∃ s, markerText (around.countP Tag.isList + 1)
        (markAt start (pre.countP Node.isItem)) face = s ++ ['\x7d'] :=
      ⟨_, (List.append_assoc _ _ _).symm⟩
    obtain ⟨rest', hr⟩ := hk (write (spansOf (before ++ .enter (.list start) :: eventsOf pre)) ++ s)
      '\x7d' rest (by simp [he, hm]) (by decide) hn
    exact ⟨face, rest', by rw [ofEvents, hr, hm]; simp⟩

/-- An ordered list with a list, a quote and code inside its first item. -/
theorem nested_list_marked :
    let nodes := parse "3. a\n   - b\n     > q\n\n   ~~~\n   x\n   ~~~\n4. d"
    areListed false nodes = true ∧ (eventsOf nodes).length < 2 ^ 63 ∧ MarksItems nodes := by
  intro nodes
  have hl : areListed false nodes = true := by decide +kernel
  have hs : (eventsOf nodes).length < 2 ^ 63 := by decide +kernel
  exact ⟨hl, hs, marksItems_of_areListed hl hs⟩

end Markup

end EditorBridge
