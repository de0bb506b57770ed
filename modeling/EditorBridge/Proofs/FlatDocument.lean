import EditorBridge.Markdown.Document
import EditorBridge.Proofs.FencedCode
import EditorBridge.Proofs.InlineNodes

/-!
Documents of headings and blocks of code. As long as no line begins a quote or a list, reading a
line adds one block to the document, and the blocks become its nodes one by one.
-/

namespace EditorBridge.Markdown

def Outline.flat (blocks : List Block) : Outline := ⟨[], blocks, false, false, []⟩

/-- A character with which no block inside another one begins, and no blank line. -/
def beginsLeaf (c : Char) : Bool := !isSpaceOrEnd c && !isBullet c && !isDigit c && c != '>'

/-- A line without indentation is in no item. -/
theorem enter_item_eq_none {c : Char} (hc : isSpaceOrEnd c = false) (rest : List Char)
    {indent : Nat} (hi : 0 < indent) :
    Container.enter? (.ofLine (c :: rest)) (.item indent) = none := by
  have hs : c ≠ ' ' ∧ c ≠ '\t' := by grind [isSpaceOrEnd, isSpace]
  have he : isLineEnd c = false := by grind [isSpaceOrEnd, isLineEnd]
  have hn : indent ≠ 0 := by omega
  simp [Container.enter?, take_ofLine hs.1 hs.2, Margin.isAtEnd, he, hn]

/-- A line that begins no quote and no item, behind no indentation. -/
structure IsLeafLine (line : List Char) : Prop where
  begins : ∃ c rest, line = c :: rest ∧ isSpaceOrEnd c = false
  noItem : itemMark? (.ofLine line) = none
  noQuote : (Margin.ofLine line).quoteMark? = none

theorem IsLeafLine.isBlankLine_eq_false {line : List Char} (h : IsLeafLine line) :
    isBlankLine line = false := by
  obtain ⟨⟨c, rest, rfl, hc⟩, -, -⟩ := h
  have hs : isSpace c = false ∧ c ≠ '\n' ∧ c ≠ '\r' := by grind [isSpaceOrEnd]
  simp [isBlankLine, blankLine?, lineEnd?, hs]

theorem isLeafLine_of_beginsLeaf {c : Char} (h : beginsLeaf c = true) (rest : List Char) :
    IsLeafLine (c :: rest) := by
  obtain ⟨⟨⟨he, hb⟩, hd⟩, hq⟩ : ((isSpaceOrEnd c = false ∧ isBullet c = false) ∧
      isDigit c = false) ∧ c ≠ '>' := by simpa [beginsLeaf] using h
  have ht (wanted : Nat) : (Margin.ofLine (c :: rest)).take wanted =
      (wanted, .ofLine (c :: rest)) :=
    take_ofLine (by grind [isSpaceOrEnd, isSpace]) (by grind [isSpaceOrEnd, isSpace]) wanted rest
  refine ⟨⟨c, rest, rfl, he⟩, ?_, ?_⟩
  · simp [itemMark?, ht, itemMarkHead?, hb, hd]
  · simp [Margin.quoteMark?, Margin.skip, ht, hq]

namespace Outline

/-- A line that begins no container adds a block to a document. -/
theorem readBlock_flat {c : Char} (h : beginsLeaf c = true) (rest : List Char)
    (blocks : List Block) :
    (flat blocks).readBlock (c :: rest) =
      (flat blocks).addBlock (c :: rest) (.ofLine (c :: rest)) := by
  have hl := isLeafLine_of_beginsLeaf h rest
  simp [readBlock, flat, enterFrames, closeMany, openContainers, finishList, hl.noItem, hl.noQuote,
    hl.isBlankLine_eq_false]

theorem readBlock_blank (rest : List Char) (blocks : List Block) :
    (flat blocks).readBlock ('\n' :: rest) = (flat blocks, rest) := rfl

/-- A line with number signs adds a heading. -/
theorem addBlock_heading {line : List Char} {level : Nat} (hb : ∃ rest, line = '#' :: rest)
    (hl : numberSignLevel? line = some level) (blocks : List Block) :
    (flat blocks).addBlock line (.ofLine line) =
      (flat (blocks ++ [(numberSignHeading level line).1]), (numberSignHeading level line).2) := by
  obtain ⟨rest, rfl⟩ := hb
  have ht : (Margin.ofLine ('#' :: rest)).take 4 = (4, .ofLine ('#' :: rest)) :=
    take_ofLine (by decide) (by decide) 4 rest
  have hr : rawEnd? ('#' :: rest) = none := rfl
  have hk : thematicBreak? ('#' :: rest) = none := rfl
  simp only [addBlock, ht, rest_ofLine, hr, hk, hl]
  rfl

/-- A fence adds a block of code. -/
theorem addBlock_fence (rest : List Char) (blocks : List Block) :
    (flat blocks).addBlock (fence ++ '\n' :: rest) (.ofLine (fence ++ '\n' :: rest)) =
      (flat (blocks ++ [(fencedCode [] 0 '\x60' 3 (fence ++ '\n' :: rest)).1]),
        (fencedCode [] 0 '\x60' 3 (fence ++ '\n' :: rest)).2) := by
  rfl

theorem readBlocks_step {line next : List Char} {o after : Outline} (hl : line ≠ [])
    (h : o.readBlock line = (after, next)) (n : Nat) :
    readBlocks (n + 1) line o = readBlocks n next after := by
  simp [readBlocks, hl, h]

end Outline

theorem textLine_next {text : List Char} (h : ∀ c ∈ text, isLineEnd c = false) (before : Char)
    (rest : List Char) : (textLine before (text ++ '\n' :: rest)).next = rest := by
  have ht : (text ++ '\n' :: rest).takeWhile (fun c => !isLineEnd c) = text := by
    rw [List.takeWhile_append_of_pos (by simpa using h)]
    simp [isLineEnd]
  simp [textLine, ht, lineEnd?]

/-- The next block begins behind the line of a heading. -/
theorem numberSignHeading_next {text rest start : List Char} {level : Nat}
    (h : ∀ c ∈ text, isLineEnd c = false) (hs : start.drop level = ' ' :: (text ++ '\n' :: rest)) :
    (numberSignHeading level start).2 = rest := by
  have hd : (' ' :: (text ++ '\n' :: rest)).dropWhile isSpace =
      text.dropWhile isSpace ++ '\n' :: rest := by
    have hn : isSpace ' ' = true ∧ isSpace '\n' = false := by decide
    rw [List.dropWhile_cons_of_pos hn.1, List.dropWhile_append]
    split
    · rename_i he
      simp [List.isEmpty_iff.mp he, hn.2]
    · rfl
  have hl : lineEnd? (' ' :: (text ++ '\n' :: rest)) = none := rfl
  have hm : ∀ c ∈ text.dropWhile isSpace, isLineEnd c = false :=
    fun c hc => h c ((List.dropWhile_suffix _).subset hc)
  simp only [numberSignHeading, hs, hl, hd]
  exact textLine_next hm _ _

theorem foldl_read_nodes (nodes before : List Node) (bounds : Bounds) :
    (nodes.map Part.node).foldl Pairing.read ⟨before, [], bounds⟩ =
      ⟨before ++ nodes, [], bounds⟩ := by
  induction nodes generalizing before with
  | nil => simp
  | cons n nodes ih => simp [Pairing.read, Pairing.add, ih]

theorem emphasize_nodes (nodes : List Node) : emphasize (nodes.map .node) = nodes := by
  simp [emphasize, foldl_read_nodes, Pairing.finish]

/-- Nodes are read as they are, whatever is around them. -/
theorem readPieces_nodes (around : Surroundings) {nodes : List Node} {pieces : List Piece}
    (h : pieces.map Piece.mark = nodes.map .node) (parts : List Part) :
    readPieces around pieces.length pieces ⟨parts, []⟩ = ⟨parts ++ nodes.map .node, []⟩ := by
  induction pieces generalizing nodes parts with
  | nil =>
    obtain rfl : nodes = [] := by simpa using h.symm
    simp [readPieces]
  | cons p pieces ih =>
    obtain ⟨n, nodes, rfl⟩ : ∃ n rest, nodes = n :: rest := by
      cases nodes with
      | nil => simp at h
      | cons n rest => exact ⟨n, rest, rfl⟩
    obtain ⟨hp, hr⟩ : p.mark = .node n ∧ pieces.map Piece.mark = nodes.map .node := by simpa using h
    simp [readPieces, hp, Reading.add, ih hr]

theorem inlines_nodes (around : Surroundings) {nodes : List Node} {pieces : List Piece}
    (h : pieces.map Piece.mark = nodes.map .node) : inlines around pieces = nodes := by
  rw [inlines, readPieces_nodes around h]
  simp [Reading.finish, emphasize_nodes]

theorem inlines_text (around : Surroundings) (start stop : Place) :
    inlines around [⟨start, stop, .text⟩] = [.text (String.ofList (between start stop))] := rfl

theorem resolveAll_leaves (definitions : List Definition) (containers : List Container)
    (pieces : List Piece) : resolveAll definitions containers (pieces.map .leaf) = pieces := by
  induction pieces with
  | nil => rfl
  | cons p pieces ih => rw [List.map_cons, resolveAll, ih, Block.resolve]

theorem resolve_ofPieces (containers : List Container) (kind : Kind) (start stop : Place)
    (pieces : List Piece) :
    ((Block.ofPieces kind start stop pieces).resolve [] containers).mark = .node (.element kind.tag
      (inlines ⟨[], containers ++ kind.container?.toList, stop⟩ pieces)) := by
  rw [Block.ofPieces, Block.resolve, resolveAll_leaves]

end EditorBridge.Markdown
