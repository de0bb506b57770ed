import EditorBridge.Proofs.NodePlaces
import EditorBridge.Proofs.ProseLines
import Mathlib.Data.List.Forall2

/-!
The landmarks of a document: its headings, the items of its lists and its blocks of code, in reading
order. A document of headings, paragraphs of text, bullet lists and a block of code is read part by
part, and each part gives its own landmarks, whatever was read before it.
-/

namespace EditorBridge.Markdown

/-- What a reader finds the way in a document by. -/
inductive Landmark where
  /-- A heading of a level and the nodes inside. -/
  | heading (level : Nat) (inside : List Node)
  /-- An item of a list and the nodes of its line. -/
  | item (inside : List Node)
  /-- A block of code and its text. -/
  | code (s : String)
  deriving Repr

def Node.verbatim : Node → String
  | .text s => s
  | _ => ""

/-- The nodes of an item; those of a paragraph stand in its place. -/
def lineOf (children : List Node) : List Node :=
  children.flatMap fun
    | .element .paragraph inside => inside
    | node => [node]

mutual

def Node.landmarks : Node → List Landmark
  | .element (.heading level) children => .heading level children :: landmarksOf children
  | .element .item children => .item (lineOf children) :: landmarksOf children
  | .element (.codeBlock _) children => [.code (String.join (children.map Node.verbatim))]
  | .element _ children => landmarksOf children
  | _ => []

def landmarksOf : List Node → List Landmark
  | [] => []
  | node :: rest => node.landmarks ++ landmarksOf rest

end

@[simp] theorem landmarksOf_nil : landmarksOf [] = [] := rfl

@[simp] theorem landmarksOf_cons (node : Node) (rest : List Node) :
    landmarksOf (node :: rest) = node.landmarks ++ landmarksOf rest := rfl

@[simp] theorem landmarksOf_append (xs ys : List Node) :
    landmarksOf (xs ++ ys) = landmarksOf xs ++ landmarksOf ys := by
  induction xs with
  | nil => rfl
  | cons x xs ih => simp [ih]

/-- There are no landmarks inside a line. -/
theorem InlineOnly.landmarks {nodes : List Node} (h : InlineOnly nodes) :
    landmarksOf nodes = [] := by
  induction nodes using Node.induct with
  | nil => rfl
  | element tag children rest ihc ihr =>
    obtain ⟨hn, hr⟩ := inlineOnly_cons.mp h
    obtain ⟨ht, hc⟩ := inlineOnly_element.mp hn
    have hi := ihc hc
    rw [landmarksOf_cons, ihr hr, List.append_nil]
    cases tag with
    | emphasis | strong | link | image => exact hi
    | _ => exact absurd ht Bool.false_ne_true
  | leaf n rest hn ih =>
    obtain ⟨-, hr⟩ := inlineOnly_cons.mp h
    rw [landmarksOf_cons, ih hr]
    cases n with
    | element tag children => exact absurd hn Bool.false_ne_true
    | _ => rfl

theorem landmarks_inlines {pieces : List Piece} (h : ArePieces pieces) (around : Surroundings) :
    landmarksOf (inlines around pieces) = [] :=
  (inlineOnly_inlines around h).landmarks

/-! ### What landmarks are written for -/

/-- What a landmark is written for: a heading or an item for a text, or code. -/
inductive Written where
  | heading (level : Nat) (s : String)
  | item (s : String)
  | code (s : String)
  deriving DecidableEq, Repr

/-- Whether nodes are what a text may become: bare text is seen as it is. -/
def ShowsText (inside : List Node) (s : String) : Prop := IsBare s.toList → inside = [.text s]

def Landmark.Shows : Landmark → Written → Prop
  | .heading level inside, .heading wanted s => level = wanted ∧ ShowsText inside s
  | .item inside, .item s => ShowsText inside s
  | .code s, .code wanted => s = wanted
  | _, _ => False

/-- Whether the landmarks of nodes are those that were written, one by one. -/
def Shows (nodes : List Node) (written : List Written) : Prop :=
  List.Forall₂ Landmark.Shows (landmarksOf nodes) written

instance (inside : List Node) (s : String) : Decidable (ShowsText inside s) :=
  have : Decidable (inside = [.text s]) :=
    match inside with
    | [.text t] => decidable_of_iff (t = s) (by simp)
    | [] | _ :: _ :: _ | [.element ..] | [.code _] | [.html _] | [.softBreak] | [.hardBreak]
    | [.rule] => isFalse (by simp)
  inferInstanceAs (Decidable (IsBare s.toList → inside = [.text s]))

instance : (landmark : Landmark) → (wanted : Written) → Decidable (landmark.Shows wanted)
  | .heading level inside, .heading wanted s =>
    inferInstanceAs (Decidable (level = wanted ∧ ShowsText inside s))
  | .item inside, .item s => inferInstanceAs (Decidable (ShowsText inside s))
  | .code s, .code wanted => inferInstanceAs (Decidable (s = wanted))
  | .heading .., .item _ | .heading .., .code _ | .item _, .heading .. | .item _, .code _
  | .code _, .heading .. | .code _, .item _ => isFalse id

instance (nodes : List Node) (written : List Written) : Decidable (Shows nodes written) :=
  inferInstanceAs (Decidable (List.Forall₂ Landmark.Shows (landmarksOf nodes) written))

theorem ShowPieces.showsText {pieces : List Piece} {s : String} (h : ShowPieces pieces s.toList)
    (around : Surroundings) : ShowsText (inlines around pieces) s := by
  intro hb
  obtain ⟨start, stop, rfl, hs⟩ := h hb
  rw [inlines_text, hs, String.ofList_toList]

/-- Blocks inside some containers become nodes with the landmarks that were written. -/
def Yields (containers : List Container) (blocks : List Block) (written : List Written) : Prop :=
  ∃ nodes, (resolveAll [] containers blocks).map Piece.mark = nodes.map .node ∧ Shows nodes written

section

variable {containers : List Container} {blocks : List Block} {written : List Written}

theorem Yields.nil (containers : List Container) : Yields containers [] [] := ⟨[], rfl, .nil⟩

theorem resolveAll_append (definitions : List Definition) (containers : List Container)
    (xs ys : List Block) : resolveAll definitions containers (xs ++ ys) =
      resolveAll definitions containers xs ++ resolveAll definitions containers ys := by
  induction xs with
  | nil => rfl
  | cons x xs ih => rw [List.cons_append, resolveAll, resolveAll, ih, List.cons_append]

theorem Yields.append {more : List Block} {others : List Written}
    (h : Yields containers blocks written) (h' : Yields containers more others) :
    Yields containers (blocks ++ more) (written ++ others) := by
  obtain ⟨nodes, hn, hs⟩ := h
  obtain ⟨nodes', hn', hs'⟩ := h'
  refine ⟨nodes ++ nodes', by simp [resolveAll_append, hn, hn'], ?_⟩
  rw [Shows, landmarksOf_append]
  exact List.rel_append hs hs'

/-- What blocks yield stands in the element that they are inside of. -/
theorem Yields.shows_inlines (h : Yields containers blocks written) (stop : Place) :
    Shows (inlines ⟨[], containers, stop⟩ (resolveAll [] containers blocks)) written := by
  obtain ⟨nodes, hn, hs⟩ := h
  rwa [inlines_nodes _ hn]

theorem yields_group {kind : Kind} {start stop : Place}
    (h : Shows [.element kind.tag (inlines ⟨[], containers ++ kind.container?.toList, stop⟩
      (resolveAll [] (containers ++ kind.container?.toList) blocks))] written) :
    Yields containers [.group kind start stop blocks] written := by
  refine ⟨_, ?_, h⟩
  rw [resolveAll, resolveAll, Block.resolve]
  rfl

theorem yields_paragraph {pieces : List Piece} (h : ArePieces pieces) (start stop : Place) :
    Yields containers [.ofPieces .paragraph start stop pieces] [] := by
  apply yields_group
  rw [resolveAll_leaves]
  have hl := landmarks_inlines h ⟨[], containers ++ Kind.paragraph.container?.toList, stop⟩
  simp [Shows, Kind.tag, Node.landmarks, hl]

theorem yields_heading {pieces : List Piece} (h : ArePieces pieces) {s : String}
    (hs : ShowPieces pieces s.toList) (level : Nat) (start stop : Place) :
    Yields containers [.ofPieces (.heading level) start stop pieces] [.heading level s] := by
  apply yields_group
  rw [resolveAll_leaves]
  have hl := landmarks_inlines h ⟨[], containers ++ (Kind.heading level).container?.toList, stop⟩
  simp [Shows, Kind.tag, Node.landmarks, hl, Landmark.Shows, hs.showsText]

theorem yields_code (info : Option (List Char)) (start stop first last : Place) :
    Yields containers [.ofPieces (.code info) start stop [⟨first, last, .text⟩]]
      [.code (String.ofList (between first last))] := by
  apply yields_group
  rw [resolveAll_leaves, inlines_text]
  simp [Shows, Kind.tag, Node.landmarks, Node.verbatim, Landmark.Shows]

end

/-! ### Lists -/

/-- What is inside an item with a text: a paragraph, or the contents of one. -/
inductive IsItemContent (s : String) : List Block → Prop
  | pieces {pieces : List Piece} : ArePieces pieces → ShowPieces pieces s.toList →
    IsItemContent s (pieces.map .leaf)
  | paragraph {pieces : List Piece} (start stop : Place) : ArePieces pieces →
    ShowPieces pieces s.toList → IsItemContent s [.ofPieces .paragraph start stop pieces]

/-- An item with a text, of a list whose items begin with a bullet and a space. -/
inductive IsItem : Block → String → Prop
  | intro {inside : List Block} {s : String} (start stop : Place) :
    IsItemContent s inside → IsItem (.group (.item 2) start stop inside) s

theorem IsItemContent.shows {inside : List Block} {s : String} (h : IsItemContent s inside)
    (stop : Place) :
    let nodes := inlines ⟨[], [.item 2], stop⟩ (resolveAll [] [.item 2] inside)
    landmarksOf nodes = [] ∧ ShowsText (lineOf nodes) s := by
  cases h with
  | @pieces pieces hp hs =>
    rw [resolveAll_leaves]
    refine ⟨landmarks_inlines hp _, fun hb => ?_⟩
    rw [hs.showsText _ hb]
    rfl
  | @paragraph pieces start last hp hs =>
    let inner := inlines ⟨[], [.item 2] ++ Kind.paragraph.container?.toList, last⟩ pieces
    have hm : (resolveAll [] [.item 2] [Block.ofPieces .paragraph start last pieces]).map
        Piece.mark = [Node.element .paragraph inner].map .node := by
      rw [resolveAll, resolveAll, List.map_singleton, resolve_ofPieces]
      rfl
    rw [inlines_nodes _ hm]
    constructor
    · rw [landmarksOf_cons, landmarksOf_nil, List.append_nil]
      exact landmarks_inlines hp _
    · intro hb
      exact (List.append_nil inner).trans (hs.showsText _ hb)

theorem IsItem.yields {b : Block} {s : String} (h : IsItem b s) : Yields [] [b] [.item s] := by
  obtain ⟨start, stop, hi⟩ := h
  obtain ⟨hl, hs⟩ := hi.shows stop
  apply yields_group
  rw [Shows, landmarksOf_cons, landmarksOf_nil, List.append_nil]
  exact .cons hs (hl ▸ .nil)

/-- An item stays one in a tight list. -/
theorem IsItem.tighten {b : Block} {s : String} (h : IsItem b s) : IsItem b.tighten s := by
  obtain ⟨start, stop, hi⟩ := h
  apply IsItem.intro
  cases hi with
  | pieces hp hs =>
    have hu : ∀ pieces : List Piece,
        (pieces.map Block.leaf).flatMap Block.unwrapParagraph = pieces.map .leaf := by
      intro pieces
      induction pieces with
      | nil => rfl
      | cons p pieces ih =>
        rw [List.map_cons, List.flatMap_cons, ih]
        rfl
    rw [hu]
    exact .pieces hp hs
  | @paragraph pieces first last hp hs =>
    have hu : [Block.ofPieces .paragraph first last pieces].flatMap Block.unwrapParagraph =
        pieces.map .leaf := List.append_nil _
    rw [hu]
    exact .pieces hp hs

section

variable {items : List Block} {texts : List String}

theorem yields_items (h : List.Forall₂ IsItem items texts) :
    Yields [] items (texts.map .item) := by
  induction h with
  | nil => exact .nil []
  | cons hb _ ih => exact hb.yields.append ih

/-- A list is its items. -/
theorem yields_list (h : List.Forall₂ IsItem items texts) (isTight : Bool) (start stop : Place) :
    Yields [] [Outline.closed stop ⟨.list isTight '*' none, start, items⟩] (texts.map .item) := by
  have hl : ∀ items, List.Forall₂ IsItem items texts → ∀ isTight,
      Yields [] [.group (.list isTight '*' none) start stop items] (texts.map .item) := by
    intro items h isTight
    apply yields_group
    have hs := (yields_items h).shows_inlines stop
    rw [Shows, landmarksOf_cons, landmarksOf_nil, List.append_nil]
    exact hs
  cases isTight with
  | false => exact hl items h false
  | true =>
    apply hl
    exact List.forall₂_map_left_iff.mpr (h.imp fun _ _ => IsItem.tighten)

end

/-! ### Outlines -/

/-- Open blocks that hold items with some texts: none, a bullet list, or a bullet list and an item.
-/
inductive HoldItems : List Frame → List String → Prop
  | nil : HoldItems [] []
  | list {items : List Block} {texts : List String} (isTight : Bool) (begun : Place) :
    List.Forall₂ IsItem items texts → HoldItems [⟨.list isTight '*' none, begun, items⟩] texts
  | item {inside items : List Block} {s : String} {texts : List String} (start : Place)
    (isTight : Bool) (begun : Place) : IsItemContent s inside → List.Forall₂ IsItem items texts →
    HoldItems [⟨.item 2, start, inside⟩, ⟨.list isTight '*' none, begun, items⟩] (texts ++ [s])

namespace Outline

/-- An outline that holds the landmarks that were written, and no definitions. -/
structure Holds (o : Outline) (written : List Written) : Prop where
  noDefinitions : o.definitions = []
  blocks : ∃ before texts, Yields [] o.blocks before ∧ HoldItems o.frames texts ∧
    written = before ++ texts.map .item

/-- An outline whose innermost open block lets every line in. -/
def IsOutside (o : Outline) : Prop := ∀ frame ∈ o.frames.head?, frame.kind.container? = none

theorem holds_empty : empty.Holds [] := ⟨rfl, [], [], .nil [], .nil, rfl⟩

variable {o : Outline} {written : List Written}

theorem Holds.close (h : o.Holds written) (stop : Place) : (o.close stop).Holds written := by
  obtain ⟨frames, blocks, itemBegun, afterBlank, definitions⟩ := o
  obtain ⟨rfl, before, texts, hb, hf, rfl⟩ := h
  cases hf with
  | nil => exact ⟨rfl, before, [], hb, .nil, rfl⟩
  | list isTight begun hi =>
    exact ⟨rfl, _, [], hb.append (yields_list hi isTight begun stop), .nil,
      (List.append_nil _).symm⟩
  | item start isTight begun hc hi =>
    have hs := List.rel_append hi (.cons (.intro start stop hc) .nil)
    exact ⟨rfl, before, _, hb, .list isTight begun hs, rfl⟩

theorem Holds.closeMany (h : o.Holds written) (stop : Place) (n : Nat) :
    (o.closeMany stop n).Holds written := by
  induction n generalizing o with
  | zero => exact h
  | succ n ih => exact ih (h.close stop)

theorem Holds.frames_closeMany (h : o.Holds written) (stop : Place) :
    (o.closeMany stop o.frames.length).frames = [] := by
  obtain ⟨frames, blocks, itemBegun, afterBlank, definitions⟩ := o
  obtain ⟨-, before, texts, -, hf, -⟩ := h
  cases hf <;> rfl

theorem Holds.yields (h : o.Holds written) (hf : o.frames = []) : Yields [] o.blocks written := by
  obtain ⟨-, before, texts, hb, hi, rfl⟩ := h
  rw [hf] at hi
  cases hi
  rwa [List.map_nil, List.append_nil]

/-- A line without indentation leaves the open item, if there is one. -/
theorem Holds.leave (h : o.Holds written) {c : Char} (hc : isSpaceOrEnd c = false)
    (rest : List Char) : ∃ o' : Outline, o'.Holds written ∧ o'.IsOutside ∧
      o.readBlock (c :: rest) = o'.readBlock (c :: rest) := by
  have ho := h
  obtain ⟨frames, blocks, itemBegun, afterBlank, definitions⟩ := o
  obtain ⟨rfl, before, texts, hb, hf, rfl⟩ := h
  cases hf with
  | nil => exact ⟨_, ho, by simp [IsOutside], rfl⟩
  | list => exact ⟨_, ho, by simp [IsOutside, Kind.container?], rfl⟩
  | item =>
    refine ⟨_, ho.close (c :: rest),
      by simp [IsOutside, Outline.close, Outline.add, Kind.container?], ?_⟩
    have he := enter_item_eq_none hc rest (show 0 < 2 by decide)
    simp [readBlock, enterFrames, Kind.container?, he, Outline.closeMany, Outline.close,
      Outline.add]

/-- A line of a block that is no container closes the list above it. -/
theorem Holds.readBlock_leaf (h : o.Holds written) {line : List Char} (hl : IsLeafLine line) :
    ∃ blocks, Yields [] blocks written ∧
      o.readBlock line = (flat blocks).addBlock line (.ofLine line) := by
  have hb := hl.isBlankLine_eq_false
  have hi := hl.noItem
  have hq := hl.noQuote
  obtain ⟨c, rest, rfl, hc⟩ := hl.begins
  obtain ⟨o, ho, hs, hr⟩ := h.leave hc rest
  rw [hr]
  obtain ⟨frames, blocks, itemBegun, afterBlank, definitions⟩ := o
  obtain ⟨rfl, before, texts, hy, hf, rfl⟩ := ho
  cases hf with
  | nil =>
    refine ⟨blocks, by simpa using hy, ?_⟩
    cases afterBlank <;>
      simp [readBlock, enterFrames, Outline.closeMany, openContainers, hi, hq, hb, finishList, flat]
  | list isTight begun hm =>
    refine ⟨_, hy.append (yields_list hm isTight begun (c :: rest)), ?_⟩
    cases afterBlank <;>
      simp [readBlock, enterFrames, Kind.container?, Outline.closeMany, openContainers, hi, hq, hb,
        finishList, flat, Outline.close, Outline.add]
  | item => exact absurd (hs _ rfl) (by simp [Kind.container?])

theorem Holds.blankLine (h : o.Holds written) (line : Place) :
    (o.blankLine line).Holds written := by
  have hc : (if o.itemBegun then o.close line else o).Holds written := by
    split
    · exact h.close line
    · exact h
  unfold Outline.blankLine
  split
  · exact h
  · exact h
  · exact ⟨hc.noDefinitions, hc.blocks⟩

/-- A blank line is inside every list and item, and adds nothing. -/
theorem Holds.readBlock_blank (h : o.Holds written) (rest : List Char) :
    o.readBlock ('\n' :: rest) = (o.blankLine ('\n' :: rest), rest) := by
  obtain ⟨frames, blocks, itemBegun, afterBlank, definitions⟩ := o
  obtain ⟨-, before, texts, -, hf, -⟩ := h
  cases hf <;> rfl

/-- The mark of an item goes on with the list above it, or begins one. -/
theorem Holds.beginItem (h : o.Holds written) (ho : o.IsOutside) (start : Place) :
    ∃ isTight begun items texts before, List.Forall₂ IsItem items texts ∧
      Yields [] o.blocks before ∧ written = before ++ texts.map .item ∧
      o.continueList start ⟨'*', none, 2⟩ =
        ⟨[⟨.list isTight '*' none, begun, items⟩], o.blocks, o.itemBegun, false, []⟩ := by
  obtain ⟨frames, blocks, itemBegun, afterBlank, definitions⟩ := o
  obtain ⟨rfl, before, texts, hb, hf, rfl⟩ := h
  cases hf with
  | nil => exact ⟨true, start, [], [], before, .nil, hb, rfl, rfl⟩
  | @list items _ isTight begun hi =>
    cases afterBlank with
    | false => exact ⟨isTight, begun, items, texts, before, hi, hb, rfl, rfl⟩
    | true => exact ⟨false, begun, items, texts, before, hi, hb, rfl, rfl⟩
  | item => exact absurd (ho _ rfl) (by simp [Kind.container?])

theorem Holds.enterFrames (h : o.Holds written) (ho : o.IsOutside) (line : Place) :
    enterFrames (.ofLine line) o.frames.reverse = (0, .ofLine line) := by
  obtain ⟨frames, blocks, itemBegun, afterBlank, definitions⟩ := o
  obtain ⟨-, before, texts, -, hf, -⟩ := h
  cases hf with
  | item => exact absurd (ho _ rfl) (by simp [Kind.container?])
  | _ => rfl

theorem holds_item {blocks inside items : List Block} {before : List Written}
    {texts : List String} {s : String} (hb : Yields [] blocks before) (hc : IsItemContent s inside)
    (hi : List.Forall₂ IsItem items texts) (start begun : Place)
    (isTight itemBegun afterBlank : Bool) :
    Holds ⟨[⟨.item 2, start, inside⟩, ⟨.list isTight '*' none, begun, items⟩], blocks, itemBegun,
      afterBlank, []⟩ (before ++ texts.map .item ++ [.item s]) := by
  refine ⟨rfl, before, _, hb, .item start isTight begun hc hi, ?_⟩
  rw [List.map_append, List.append_assoc]
  rfl

/-- An item without text. -/
theorem Holds.readBlock_emptyItem (h : o.Holds written) (rest : List Char) :
    ∃ o' : Outline, o'.Holds (written ++ [.item ""]) ∧
      o.readBlock ('*' :: ' ' :: '\n' :: rest) = (o', rest) := by
  obtain ⟨o, hh, hs, hr⟩ := h.leave (show isSpaceOrEnd '*' = false by decide) (' ' :: '\n' :: rest)
  rw [hr]
  have hm : itemMark? (.ofLine ('*' :: ' ' :: '\n' :: rest)) =
      some (⟨'*', none, 2⟩, ⟨'\n' :: rest, 2, 0⟩) := rfl
  generalize '*' :: ' ' :: '\n' :: rest = line at hm
  obtain ⟨isTight, begun, items, texts, before, hi, hb, rfl, hc⟩ := hh.beginItem hs line
  have hn : IsItemContent "" [] :=
    @IsItemContent.pieces "" [] (by simp [ArePieces]) fun hb => absurd rfl hb.notEmpty
  refine ⟨_, holds_item hb hn hi line begun isTight true false, ?_⟩
  rw [readBlock, hh.enterFrames hs]
  simp only [Outline.closeMany, openContainers, hm, rest_ofLine, hc]
  rfl

theorem itemMark_text {text : Place} (h : BeginsText text)
    (ht : thematicBreak? ('*' :: ' ' :: text) = none) :
    itemMark? (.ofLine ('*' :: ' ' :: text)) = some (⟨'*', none, 2⟩, ⟨text, 2, 0⟩) := by
  have hb := h.isLeafLine.isBlankLine_eq_false
  have hs : (Margin.mk (' ' :: text) 1 0).take 1 = (0, ⟨text, 2, 0⟩) := by
    obtain ⟨c, rest, rfl, -⟩ := h.begins
    rfl
  have hh : itemMarkHead? 0 (.ofLine ('*' :: ' ' :: text)) =
      some (⟨'*', none, 2⟩, ⟨' ' :: text, 1, 0⟩) := by
    simp [itemMarkHead?, isBullet, ht, Margin.tail, Margin.ofLine]
  have hf : (Margin.ofLine ('*' :: ' ' :: text)).take 4 = (4, .ofLine ('*' :: ' ' :: text)) := rfl
  simp [itemMark?, hf, hh, hs, hb, h.take_margin]

/-- Text opens no container. -/
theorem openContainers_text {s : Place} (h : BeginsText s) (line : Place) (n column : Nat)
    (o : Outline) :
    openContainers line n ⟨s, column, 0⟩ o = (o, ⟨s, column, 0⟩, false) := by
  cases n with
  | zero => rfl
  | succ n => simp [openContainers, h.itemMark_eq_none, h.quoteMark_eq_none]

/-- Text adds a paragraph. -/
theorem addBlock_text {s : Place} (h : BeginsText s) (line : Place) (column : Nat) (o : Outline) :
    o.addBlock line ⟨s, column, 0⟩ =
      (o.add [(paragraph o.containers (charBefore line s) s).1],
        (paragraph o.containers (charBefore line s) s).2) := by
  obtain ⟨⟨ht, hl, hf⟩, -⟩ := h.scans
  simp [addBlock, h.take_margin, h.rawEnd_eq_none, h.definition_eq_none, ht, hl, hf]

/-- An item with a text. -/
theorem Holds.readBlock_item (h : o.Holds written) {s : String} (hs : IsProse s.toList)
    {rest : Place} (he : EndsText [.item 2] rest)
    (ht : thematicBreak? ('*' :: ' ' :: (s.toList ++ '\n' :: rest)) = none) :
    ∃ o' : Outline, o'.Holds (written ++ [.item s]) ∧
      o.readBlock ('*' :: ' ' :: (s.toList ++ '\n' :: rest)) = (o', rest) := by
  have hx := hs.begins rest
  obtain ⟨o, hh, ho, hr⟩ :=
    h.leave (show isSpaceOrEnd '*' = false by decide) (' ' :: (s.toList ++ '\n' :: rest))
  rw [hr]
  have hm := itemMark_text hx ht
  generalize '*' :: ' ' :: (s.toList ++ '\n' :: rest) = line at hm
  obtain ⟨isTight, begun, items, texts, before, hi, hb, rfl, hc⟩ := hh.beginItem ho line
  obtain ⟨pieces, hp, hw, hg⟩ :=
    paragraph_text (.inr rfl) hs he (charBefore line (s.toList ++ '\n' :: rest))
  refine ⟨_, holds_item hb (.paragraph (s.toList ++ '\n' :: rest) rest hp hw) hi line begun isTight
    false false, ?_⟩
  rw [readBlock, hh.enterFrames ho]
  simp only [Outline.closeMany, openContainers, hm, rest_ofLine, hc, openFrame, Bool.false_eq_true,
    if_false, openContainers_text hx, hx.isLeafLine.isBlankLine_eq_false, addBlock_text hx]
  have hk : containers (finishList line ⟨[⟨.item 2, line, []⟩,
    ⟨.list isTight '*' none, begun, items⟩], o.blocks, false, false, []⟩) = [.item 2] := rfl
  rw [hk, hg]
  rfl

end Outline

/-! ### Parts of a document -/

/-- Whatever has been read before, reading goes from one place to another and finds the landmarks
that were written between them, with at most one step for each character. -/
def Passes (s t : Place) (written : List Written) : Prop :=
  ∀ (o : Outline) (before : List Written), o.Holds before →
    ∃ (o' : Outline) (steps : Nat), o'.Holds (before ++ written) ∧ steps + t.length ≤ s.length ∧
      ∀ n, Outline.readBlocks (n + steps) s o = Outline.readBlocks n t o'

namespace Passes

theorem refl (s : Place) : Passes s s [] := by
  intro o before h
  exact ⟨o, 0, by rwa [List.append_nil], by omega, fun n => rfl⟩

theorem trans {s t u : Place} {written more : List Written} (h : Passes s t written)
    (h' : Passes t u more) : Passes s u (written ++ more) := by
  intro o before ho
  obtain ⟨o₁, a, h₁, ha, hr⟩ := h o before ho
  obtain ⟨o₂, b, h₂, hb, hs⟩ := h' o₁ _ h₁
  refine ⟨o₂, b + a, by rwa [← List.append_assoc], by omega, ?_⟩
  intro n
  rw [← Nat.add_assoc, hr, hs]

/-- One block. -/
theorem step {s t : Place} {written : List Written} (hl : t.length < s.length)
    (h : ∀ (o : Outline) (before : List Written), o.Holds before →
      ∃ o' : Outline, o'.Holds (before ++ written) ∧ o.readBlock s = (o', t)) :
    Passes s t written := by
  intro o before ho
  obtain ⟨o', ho', hr⟩ := h o before ho
  have hs : s ≠ [] := by
    rintro rfl
    exact absurd hl (Nat.not_lt_zero _)
  exact ⟨o', 1, ho', by omega, Outline.readBlocks_step hs hr⟩

theorem blank (rest : Place) : Passes ('\n' :: rest) rest [] := by
  apply step (by simp)
  intro o before h
  exact ⟨_, by simpa using h.blankLine _, h.readBlock_blank rest⟩

/-- A block that is no container, behind the list above it. -/
theorem leaf {s t : Place} {b : Block} {written : List Written} (hl : t.length < s.length)
    (hs : IsLeafLine s) (hy : Yields [] [b] written)
    (ha : ∀ blocks, (Outline.flat blocks).addBlock s (.ofLine s) = (.flat (blocks ++ [b]), t)) :
    Passes s t written := by
  apply step hl
  intro o before h
  obtain ⟨blocks, hb, hr⟩ := h.readBlock_leaf hs
  exact ⟨_, ⟨rfl, _, [], hb.append hy, .nil, by simp⟩, hr.trans (ha blocks)⟩

/-- A heading of one line. -/
theorem heading {level : Nat} {start rest : Place} {s : String}
    (hb : ∃ more, start = '#' :: more) (hl : numberSignLevel? start = some level)
    (hd : start.drop level = ' ' :: (s.toList ++ '\n' :: rest))
    (hs : IsLine s.toList) : Passes start rest [.heading level s] := by
  obtain ⟨pieces, hp, hw, he⟩ := numberSignHeading_shows hs hd
  have hlen : rest.length < start.length := by
    have := congrArg List.length hd
    simp only [List.length_drop, List.length_cons, List.length_append] at this
    omega
  refine leaf hlen ?_ (yields_heading hp hw level start rest) ?_
  · obtain ⟨more, rfl⟩ := hb
    exact isLeafLine_of_beginsLeaf (by decide) more
  · intro blocks
    rw [Outline.addBlock_heading hb hl, he]

/-- Lines of text. -/
theorem paragraph {s : List Char} (hs : IsProse s) (rest : Place) :
    Passes (s ++ '\n' :: '\n' :: rest) ('\n' :: rest) [] := by
  have hb := hs.begins ('\n' :: rest)
  obtain ⟨pieces, hp, -, he⟩ := paragraph_text (.inl rfl) hs (.blank _ rest)
    (charBefore (s ++ '\n' :: '\n' :: rest) (s ++ '\n' :: '\n' :: rest))
  have hy := @yields_paragraph [] pieces hp (s ++ '\n' :: '\n' :: rest) ('\n' :: rest)
  refine leaf ?_ hb.isLeafLine hy ?_
  · simp only [List.length_append, List.length_cons]
    omega
  · intro blocks
    rw [Margin.ofLine, Outline.addBlock_text hb]
    have hc : (Outline.flat blocks).containers = [] := rfl
    rw [hc, he]
    rfl

/-- A block of code between fences. -/
theorem code {lines : List (List Char)} (hl : ∀ line ∈ lines, IsCodeLine '\x60' line)
    (hn : lines ≠ []) (rest : Place) :
    Passes (fence ++ '\n' :: (codeText lines ++ (fence ++ '\n' :: rest))) rest
      [.code (String.ofList (codeText lines))] := by
  have hf := fencedCode_lines hl hn rest
  have hy := @yields_code [] (some [])
    (fence ++ '\n' :: (codeText lines ++ (fence ++ '\n' :: rest))) ('\n' :: rest)
    (codeText lines ++ (fence ++ '\n' :: rest)) (fence ++ '\n' :: rest)
  rw [between_append] at hy
  refine leaf ?_ (isLeafLine_of_beginsLeaf (by decide) _) hy ?_
  · simp only [List.length_append, List.length_cons]
    omega
  · intro blocks
    rw [Outline.addBlock_fence, hf]

/-- An item with lines of text. -/
theorem item {s : String} (hs : IsProse s.toList) {rest : Place} (he : EndsText [.item 2] rest)
    (ht : thematicBreak? ('*' :: ' ' :: (s.toList ++ '\n' :: rest)) = none) :
    Passes ('*' :: ' ' :: (s.toList ++ '\n' :: rest)) rest [.item s] := by
  apply step
  · simp only [List.length_cons, List.length_append]
    omega
  · intro o before h
    exact h.readBlock_item hs he ht

/-- An item without text. -/
theorem emptyItem (rest : Place) : Passes ('*' :: ' ' :: '\n' :: rest) rest [.item ""] := by
  apply step
  · simp only [List.length_cons]
    omega
  · intro o before h
    exact h.readBlock_emptyItem rest

/-- A document that is passed has the landmarks that were written. -/
theorem shows {s : Place} {written : List Written} (h : Passes s [] written) :
    Shows (nodesOf s) written := by
  obtain ⟨o, steps, ho, hl, hr⟩ := h .empty [] Outline.holds_empty
  obtain ⟨n, hn⟩ : ∃ n, s.length + 1 = n + steps := ⟨s.length + 1 - steps, by omega⟩
  have he : Outline.readBlocks n [] o = o := by cases n <;> rfl
  have hc := ho.closeMany [] o.frames.length
  have hy := hc.yields (ho.frames_closeMany [])
  rw [nodesOf, Outline.ofText, hn, hr, he, hc.noDefinitions]
  exact hy.shows_inlines []

end Passes

end EditorBridge.Markdown
