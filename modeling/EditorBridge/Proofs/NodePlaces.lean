import EditorBridge.Markdown.Node

/-!
Where the nodes of a document stand: behind which events, and inside which elements. Whatever is
entered or left in the events of a document is an element that stands somewhere in it.
-/

namespace EditorBridge.Markdown

/-- Whether a node stands among nodes or inside them, behind some events of theirs and inside
elements with some tags, the outermost first. -/
inductive Stands (n : Node) : List Event → List Tag → List Node → Prop where
  | here (rest : List Node) : Stands n [] [] (n :: rest)
  | later (first : Node) {rest : List Node} {before : List Event} {around : List Tag} :
      Stands n before around rest → Stands n (first.events ++ before) around (first :: rest)
  | inside (tag : Tag) {children : List Node} (rest : List Node) {before : List Event}
      {around : List Tag} : Stands n before around children →
      Stands n (.enter tag :: before) (tag :: around) (.element tag children :: rest)

/-- What stands inside an element stands where the element does. -/
theorem Stands.trans {n : Node} {tag : Tag} {children nodes : List Node}
    {before before' : List Event} {around around' : List Tag} (h : Stands n before around children)
    (h' : Stands (.element tag children) before' around' nodes) :
    Stands n (before' ++ .enter tag :: before) (around' ++ tag :: around) nodes := by
  induction h' with
  | here rest => exact .inside tag rest h
  | later first _ ih =>
    rw [List.append_assoc]
    exact .later first ih
  | inside outer rest _ ih => exact .inside outer rest ih

def Node.isLeaf : Node → Bool
  | .element .. => false
  | _ => true

def Event.node? : Event → Option Node
  | .enter _ | .leave _ => none
  | .text s => some (.text s)
  | .code s => some (.code s)
  | .html s => some (.html s)
  | .softBreak => some .softBreak
  | .hardBreak => some .hardBreak
  | .rule => some .rule

theorem Node.events_leaf {n : Node} (h : n.isLeaf = true) :
    ∃ e, n.events = [e] ∧ e.node? = some n := by
  cases n with
  | element tag children => exact absurd h Bool.false_ne_true
  | _ => exact ⟨_, rfl, rfl⟩

/-- A node that begins with the event of another one, which is no element, is that one. -/
theorem Event.node_unique {e : Event} {n m : Node} (he : e.node? = some n) {s t : List Event}
    (h : e :: s = m.events ++ t) : n = m ∧ s = t := by
  cases m with
  | element tag children =>
    obtain ⟨rfl, -⟩ := List.cons.inj h
    exact absurd he nofun
  | _ =>
    obtain ⟨rfl, rfl⟩ := List.cons.inj h
    exact ⟨(Option.some.inj he).symm, rfl⟩

/-- A property of all lists of nodes, if it passes on to an element from what is inside it and to
any node from what is behind it. -/
theorem Node.induct {P : List Node → Prop} (nil : P [])
    (element : ∀ tag children rest, P children → P rest → P (.element tag children :: rest))
    (leaf : ∀ n rest, n.isLeaf = true → P rest → P (n :: rest)) (nodes : List Node) : P nodes := by
  refine @Node.rec_1 (fun n => ∀ rest, P rest → P (n :: rest)) P ?_ ?_ ?_ ?_ ?_ ?_ ?_ nil ?_ nodes
  · exact fun tag children hc rest hr => element tag children rest hc hr
  · exact fun s rest => leaf (.text s) rest rfl
  · exact fun s rest => leaf (.code s) rest rfl
  · exact fun s rest => leaf (.html s) rest rfl
  · exact fun rest => leaf .softBreak rest rfl
  · exact fun rest => leaf .hardBreak rest rfl
  · exact fun rest => leaf .rule rest rfl
  · exact fun n rest hn hr => hn rest hr

/-! ### Events determine their nodes -/

def FollowsNodes (events : List Event) : Prop := ∀ e ∈ events.head?, ∃ tag, e = .leave tag

theorem followsNodes_leave (tag : Tag) (events : List Event) :
    FollowsNodes (.leave tag :: events) := by simp [FollowsNodes]

theorem Node.events_head (n : Node) :
    ∃ e rest, n.events = e :: rest ∧ ∀ tag, e ≠ .leave tag := by
  cases n <;> exact ⟨_, _, rfl, by simp⟩

theorem not_followsNodes (n : Node) (events : List Event) : ¬FollowsNodes (n.events ++ events) := by
  obtain ⟨e, rest, he, hn⟩ := n.events_head
  intro h
  obtain ⟨tag, ht⟩ := h e (by simp [he])
  exact hn tag ht

theorem eventsOf_append_inj {xs ys : List Node} {s t : List Event} (hs : FollowsNodes s)
    (ht : FollowsNodes t) (h : eventsOf xs ++ s = eventsOf ys ++ t) : xs = ys ∧ s = t := by
  induction xs using Node.induct generalizing ys s t with
  | nil =>
    cases ys with
    | nil => exact ⟨rfl, h⟩
    | cons y ys =>
      simp only [eventsOf_nil, List.nil_append, eventsOf_cons, List.append_assoc] at h
      exact absurd (h ▸ hs) (not_followsNodes y _)
  | element tag children rest ihc ihr =>
    cases ys with
    | nil =>
      simp only [eventsOf_nil, List.nil_append, eventsOf_cons, List.append_assoc] at h
      exact absurd (h ▸ ht) (not_followsNodes _ _)
    | cons y ys =>
      cases y with
      | element tag' children' =>
        simp only [eventsOf_cons, Node.events, List.cons_append, List.append_assoc, List.nil_append,
          List.cons.injEq, Event.enter.injEq] at h
        obtain ⟨rfl, hc⟩ := h
        obtain ⟨rfl, hr⟩ := ihc (followsNodes_leave _ _) (followsNodes_leave _ _) hc
        obtain ⟨rfl, rfl⟩ := ihr hs ht (List.cons.inj hr).2
        exact ⟨rfl, rfl⟩
      | _ => simp [Node.events] at h
  | leaf n rest hn ih =>
    cases ys with
    | nil =>
      simp only [eventsOf_nil, List.nil_append, eventsOf_cons, List.append_assoc] at h
      exact absurd (h ▸ ht) (not_followsNodes _ _)
    | cons y ys =>
      obtain ⟨e, he, hen⟩ := n.events_leaf hn
      simp only [eventsOf_cons, he, List.append_assoc, List.singleton_append] at h
      obtain ⟨rfl, hr⟩ := Event.node_unique hen h
      obtain ⟨rfl, rfl⟩ := ih hs ht hr
      exact ⟨rfl, rfl⟩

/-- No two documents have the same events. -/
theorem eventsOf_inj {xs ys : List Node} (h : eventsOf xs = eventsOf ys) : xs = ys := by
  have hn : FollowsNodes [] := by simp [FollowsNodes]
  exact (eventsOf_append_inj hn hn (by simpa using h)).1

/-! ### Elements that are left -/

theorem exists_stands_of_leave {nodes : List Node} {tag : Tag}
    (h : .leave tag ∈ eventsOf nodes) :
    ∃ children before around, Stands (.element tag children) before around nodes := by
  induction nodes using Node.induct with
  | nil => simp at h
  | element other children rest ihc ihr =>
    simp only [eventsOf_cons, Node.events, List.cons_append, List.append_assoc, List.mem_cons,
      List.mem_append, reduceCtorEq, false_or, Event.leave.injEq, List.not_mem_nil] at h
    obtain h | rfl | h := h
    · obtain ⟨inner, before, around, hs⟩ := ihc h
      exact ⟨inner, _, _, .inside other rest hs⟩
    · exact ⟨children, _, _, .here rest⟩
    · obtain ⟨inner, before, around, hs⟩ := ihr h
      exact ⟨inner, _, _, .later _ hs⟩
  | leaf n rest hn ih =>
    obtain ⟨e, he, hen⟩ := n.events_leaf hn
    rw [eventsOf_cons, he, List.singleton_append, List.mem_cons] at h
    obtain rfl | h := h
    · exact absurd hen nofun
    · obtain ⟨inner, before, around, hs⟩ := ih h
      exact ⟨inner, _, _, .later n hs⟩

/-- A beginning of two parts ends in the first of them or goes on in the second. -/
theorem prefix_append_cases {α : Type} {p xs ys : List α} (h : p <+: xs ++ ys) :
    p <+: xs ∨ ∃ q, p = xs ++ q ∧ q <+: ys := by
  obtain ⟨rest, hr⟩ := h
  obtain ⟨a, rfl, -⟩ | ⟨q, rfl, rfl⟩ := List.append_eq_append_iff.mp hr
  · exact .inl (List.prefix_append _ _)
  · exact .inr ⟨q, rfl, List.prefix_append _ _⟩

theorem concat_prefix_append_cases {α : Type} {p xs ys : List α} {x : α}
    (h : p ++ [x] <+: xs ++ ys) : p ++ [x] <+: xs ∨ ∃ q, p = xs ++ q ∧ q ++ [x] <+: ys := by
  obtain h | ⟨q, hq, hp⟩ := prefix_append_cases h
  · exact .inl h
  · obtain rfl | ⟨q, y, rfl⟩ := List.eq_nil_or_concat q
    · exact .inl ⟨[], by rw [hq, List.append_nil, List.append_nil]⟩
    · rw [List.concat_eq_append] at hp
      rw [List.concat_eq_append, ← List.append_assoc, List.append_singleton_inj] at hq
      obtain ⟨rfl, rfl⟩ := hq
      exact .inr ⟨q, rfl, hp⟩

/-- Where an element is entered, one with its tag stands. -/
theorem exists_stands_of_enter {nodes : List Node} {tag : Tag} {before : List Event}
    (h : before ++ [.enter tag] <+: eventsOf nodes) :
    ∃ children around, Stands (.element tag children) before around nodes := by
  induction nodes using Node.induct generalizing before with
  | nil => simp at h
  | element other children rest ihc ihr =>
    rw [eventsOf_cons, Node.events, List.cons_append, List.append_assoc] at h
    cases before with
    | nil =>
      obtain rfl : tag = other := by simpa [List.cons_prefix_cons] using h
      exact ⟨children, [], .here rest⟩
    | cons e before =>
      rw [List.cons_append] at h
      obtain ⟨rfl, ht⟩ := List.cons_prefix_cons.mp h
      obtain hc | ⟨q, rfl, hr⟩ := concat_prefix_append_cases ht
      · obtain ⟨inner, around, hs⟩ := ihc hc
        exact ⟨inner, _, .inside other rest hs⟩
      · cases q with
        | nil => simp [List.cons_prefix_cons] at hr
        | cons e q =>
          rw [List.cons_append, List.singleton_append] at hr
          obtain ⟨rfl, hq⟩ := List.cons_prefix_cons.mp hr
          obtain ⟨inner, around, hs⟩ := ihr hq
          refine ⟨inner, around, ?_⟩
          simpa [Node.events] using hs.later (.element other children)
  | leaf n rest hn ih =>
    obtain ⟨e, he, hen⟩ := n.events_leaf hn
    rw [eventsOf_cons, he, List.singleton_append] at h
    cases before with
    | nil =>
      obtain rfl : .enter tag = e := by simpa [List.cons_prefix_cons] using h
      exact absurd hen nofun
    | cons f before =>
      rw [List.cons_append] at h
      obtain ⟨rfl, ht⟩ := List.cons_prefix_cons.mp h
      obtain ⟨inner, around, hs⟩ := ih ht
      refine ⟨inner, around, ?_⟩
      simpa [he] using hs.later n

theorem stands_middle (n : Node) (pre post : List Node) :
    Stands n (eventsOf pre) [] (pre ++ n :: post) := by
  induction pre with
  | nil => exact .here post
  | cons first pre ih => exact .later first ih

/-- What stands inside no element among nodes is one of them. -/
theorem Stands.eq_append {n : Node} {before : List Event} {around : List Tag} {nodes : List Node}
    (h : Stands n before around nodes) (ha : around = []) :
    ∃ pre post, nodes = pre ++ n :: post ∧ before = eventsOf pre := by
  induction h with
  | here rest => exact ⟨[], rest, rfl, rfl⟩
  | later first _ ih =>
    obtain ⟨pre, post, rfl, rfl⟩ := ih ha
    exact ⟨first :: pre, post, rfl, rfl⟩
  | inside => cases ha

/-- The innermost element around a node. -/
theorem Stands.parent {n : Node} {before : List Event} {outer : List Tag} {tag : Tag}
    {nodes : List Node} (h : Stands n before (outer ++ [tag]) nodes) :
    ∃ pre post front, Stands (.element tag (pre ++ n :: post)) front outer nodes ∧
      before = front ++ .enter tag :: eventsOf pre := by
  generalize ha : outer ++ [tag] = around at h
  induction h generalizing outer with
  | here rest => simp at ha
  | later first _ ih =>
    obtain ⟨pre, post, front, hs, rfl⟩ := ih ha
    exact ⟨pre, post, _, .later first hs, by rw [List.append_assoc]⟩
  | inside other rest h ih =>
    cases outer with
    | nil =>
      obtain ⟨rfl, rfl⟩ := List.cons.inj ha
      obtain ⟨pre, post, rfl, rfl⟩ := h.eq_append rfl
      exact ⟨pre, post, [], .here rest, rfl⟩
    | cons first outer =>
      rw [List.cons_append] at ha
      obtain ⟨rfl, ht⟩ := List.cons.inj ha
      obtain ⟨pre, post, front, hs, rfl⟩ := ih ht
      exact ⟨pre, post, _, .inside _ rest hs, rfl⟩

/-- The events of the nodes begin with those before a node that stands in them, and go on with
those of that node. -/
theorem Stands.events_prefix {n : Node} {before : List Event} {around : List Tag}
    {nodes : List Node} (h : Stands n before around nodes) :
    before ++ n.events <+: eventsOf nodes := by
  induction h with
  | here rest => exact List.prefix_append _ _
  | later first _ ih =>
    rw [List.append_assoc]
    exact (List.prefix_append_right_inj _).mpr ih
  | inside tag rest _ ih =>
    rw [eventsOf_cons, Node.events, List.cons_append, List.cons_append, List.append_assoc]
    exact List.cons_prefix_cons.mpr ⟨rfl, ih.trans (List.prefix_append _ _)⟩

end EditorBridge.Markdown
