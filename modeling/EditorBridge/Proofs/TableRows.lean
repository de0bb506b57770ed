import EditorBridge.Proofs.TableAlignment
import Mathlib.Data.List.Forall2

/-!
The rows of a grid. Each row of a table becomes a block of lines of its own, between the borders and
in the order of the rows; read downwards, each column of a block holds the lines of one cell, and
below them blanks. So no line of a cell under a header is lost, doubled or moved.
-/

namespace EditorBridge

namespace Table

open Text

variable (count : ColumnCount)

/-- The lines of the cell of a row in a column; a row that has no such cell has no line there. -/
def linesAt (row : List String) (column : Nat) : List (List Char) :=
  row[column]?.toList.flatMap fun cell => lines cell.toList

/-- A line with blanks around it that fill a width; of an odd number of blanks the greater half is
on the right. -/
def IsCentred (width : Nat) (line field : List Char) : Prop :=
  ∃ left right, field = List.replicate left ' ' ++ line ++ List.replicate right ' ' ∧
    left + count.columns line + right = width ∧ (right = left ∨ right = left + 1)

def fieldLine (fields : List (List Char)) : List Char :=
  ['|', ' '] ++ joinWith [' ', '|', ' '] fields ++ [' ', '|']

/-- The block of a row: as many lines as its tallest cell under a header, and at least one. Read
downwards, the fields of a column are the lines of the cell, each one once and in their order, and
empty lines below them. -/
structure IsBlock (widths : List Nat) (row : List String) (block : List (List (List Char))) :
    Prop where
  height_eq : block.length =
    max 1 (((List.range widths.length).map fun column => (linesAt row column).length).foldr max 0)
  columns : ∀ fields ∈ block, fields.length = widths.length
  cells (column : Nat) (h : column < widths.length) :
    ∃ blanks, List.Forall₂ (IsCentred count widths[column])
      (linesAt row column ++ List.replicate blanks [])
      (block.map fun fields => fields.getD column [])

theorem isCentred_centre {line : List Char} {width : Nat} (h : count.columns line ≤ width) :
    IsCentred count width line (centre count.columns line width) := by
  refine ⟨_, _, rfl, ?_, ?_⟩ <;> omega

/-- Looking up more lines than there are gives empty lines behind them. -/
theorem map_getD_range {cell : List (List Char)} {count : Nat} (h : cell.length ≤ count) :
    (List.range count).map (fun i => cell.getD i []) =
      cell ++ List.replicate (count - cell.length) [] := by
  apply List.ext_getElem
  · simp [h]
  · intro i _ hi
    rw [List.getElem_map, List.getElem_range, List.getD_eq_getElem?_getD]
    by_cases hc : i < cell.length
    · rw [List.getElem_append_left hc, List.getElem?_eq_getElem hc, Option.getD_some]
    · rw [List.getElem_append_right (by omega), List.getElem?_eq_none (by omega)]
      simp

section

variable {widths : List Nat} {row : List String}

theorem height_fit (widths : List Nat) (row : List String) :
    height (fit widths.length (row.map Cell.ofString)) =
      max 1 (((List.range widths.length).map fun column =>
        (linesAt row column).length).foldr max 0) := by
  simp only [height, fit, List.map_map, Function.comp_def, cellAt_ofString, linesAt]

theorem length_le_height {column : Nat} (h : column < widths.length) :
    (linesAt row column).length ≤ height (fit widths.length (row.map Cell.ofString)) := by
  have hm : (linesAt row column).length ∈ (List.range widths.length).map fun column =>
      (linesAt row column).length := List.mem_map.mpr ⟨column, List.mem_range.mpr h, rfl⟩
  have hl := foldr_max_le.mp (Nat.le_refl _) _ hm
  rw [height_fit]
  omega

/-- The lines of a row whose cells fit their columns. -/
theorem exists_isBlock (hw : ∀ column (h : column < widths.length), ∀ line ∈ linesAt row column,
    count.columns line ≤ widths[column]) :
    ∃ block, IsBlock count widths row block ∧
      rowLines count.columns widths (fit widths.length (row.map Cell.ofString)) =
        block.map fieldLine := by
  let tall := height (fit widths.length (row.map Cell.ofString))
  refine ⟨(List.range tall).map (fields count widths (row.map Cell.ofString)), ⟨?_, ?_, ?_⟩, ?_⟩
  · rw [List.length_map, List.length_range, ← height_fit]
  · intro line hl
    obtain ⟨i, -, rfl⟩ := List.mem_map.mp hl
    exact length_fields count _ _ _
  · intro column h
    refine ⟨tall - (linesAt row column).length, ?_⟩
    rw [← map_getD_range (length_le_height h), List.map_map, List.forall₂_map_left_iff,
      List.forall₂_map_right_iff, List.forall₂_same]
    intro i _
    have hf : column < (fields count widths (row.map Cell.ofString) i).length := by
      rwa [length_fields]
    have hg : (fields count widths (row.map Cell.ofString) i).getD column [] =
        centre count.columns ((linesAt row column).getD i []) widths[column] := by
      rw [List.getD_eq_getElem?_getD, List.getElem?_eq_getElem hf, Option.getD_some,
        getElem_fields count hf h, cellAt_ofString, linesAt]
    rw [Function.comp_apply, hg]
    apply isCentred_centre
    rw [List.getD_eq_getElem?_getD]
    cases hi : (linesAt row column)[i]? with
    | none => exact Nat.le_trans (Nat.le_of_eq count.columns_nil) (Nat.zero_le _)
    | some line => exact hw column h line (List.mem_of_getElem? hi)
  · rw [rowLines, List.map_map]
    rfl

end

/-- What the lines of a table are: a border, the block of the header, a border, one block for each
row, in their order, and a border. -/
structure IsTable (headers : List String) (rows : List (List String)) (grid : String)
    (widths : List Nat) (head : List (List (List Char)))
    (body : List (List (List (List Char)))) : Prop where
  columns : widths.length = headers.length
  widest (column : Nat) (h : column < widths.length) :
    IsWidest count widths[column] (linesIn column (headers :: rows))
  headBlock : IsBlock count widths headers head
  rowBlocks : List.Forall₂ (IsBlock count widths) rows body
  lines_eq : lines grid.toList =
    [border widths] ++ head.map fieldLine ++ [border widths] ++
      body.flatMap (fun block => block.map fieldLine) ++ [border widths]

theorem lines_layOut (columns : List Char → Nat) (headers : List String)
    (rows : List (List String)) :
    lines (layOut columns headers rows).toList =
      gridLines columns (headers.map Cell.ofString)
        (rows.map fun row => row.map Cell.ofString) := by
  rw [lines, splitLineFeeds_layOut]
  apply linesOfPieces_whole
  intro line hm
  obtain ⟨front, c, rfl, hc⟩ := (isGridLine_ofStrings columns headers rows line hm).ends
  refine ⟨by simp, ?_⟩
  obtain rfl | rfl := hc <;> simp

/-- Blocks for rows, one for each. -/
theorem exists_blocks {widths : List Nat} {rows : List (List String)}
    (h : ∀ row ∈ rows, ∃ block, IsBlock count widths row block ∧
      rowLines count.columns widths (fit widths.length (row.map Cell.ofString)) =
        block.map fieldLine) :
    ∃ body, List.Forall₂ (IsBlock count widths) rows body ∧
      (rows.flatMap fun row =>
          rowLines count.columns widths (fit widths.length (row.map Cell.ofString))) =
        body.flatMap fun block => block.map fieldLine := by
  induction rows with
  | nil => exact ⟨[], .nil, rfl⟩
  | cons row rows ih =>
    obtain ⟨⟨block, hb, he⟩, hr⟩ := List.forall_mem_cons.mp h
    obtain ⟨body, hs, hl⟩ := ih hr
    exact ⟨block :: body, .cons hb hs, by rw [List.flatMap_cons, List.flatMap_cons, he, hl]⟩

theorem cellAt_take {row : List Cell} {count column : Nat} (h : column < count) :
    cellAt (row.take count) column = cellAt row column := by
  simp [cellAt, List.getD_eq_getElem?_getD, h]

theorem fit_take (columns : Nat) (row : List Cell) :
    fit columns (row.take columns) = fit columns row :=
  List.map_congr_left fun _ h => cellAt_take (List.mem_range.mp h)

/-- Cells past the last header make no difference. -/
theorem gridLines_take (columns : List Char → Nat) (header : List Cell) (rows : List (List Cell)) :
    gridLines columns header (rows.map fun row => row.take header.length) =
      gridLines columns header rows := by
  have hw : columnWidths columns header (rows.map fun row => row.take header.length) =
      columnWidths columns header rows := by
    refine List.map_congr_left fun column hc => ?_
    have ht : ∀ row ∈ rows, (cellAt (row.take header.length) column).width columns =
        (cellAt row column).width columns :=
      fun row _ => by rw [cellAt_take (List.mem_range.mp hc)]
    rw [List.map_cons, List.map_cons, List.map_map]
    exact congrArg _ (congrArg _ (List.map_congr_left ht))
  simp only [gridLines, hw, List.flatMap_map, fit_take]

theorem layOut_take (columns : List Char → Nat) (headers : List String)
    (rows : List (List String)) :
    layOut columns headers rows =
      layOut columns headers (rows.map fun row => row.take headers.length) := by
  have hg := gridLines_take columns (headers.map Cell.ofString)
    (rows.map fun row => row.map Cell.ofString)
  rw [layOut, layOut, ← hg, List.length_map, List.map_map, List.map_map]
  simp only [Function.comp_def, List.map_take]

theorem exists_isTable_layOut (headers : List String) (rows : List (List String)) :
    ∃ widths head body,
      IsTable count headers rows (layOut count.columns headers rows) widths head body := by
  obtain ⟨widths, hw⟩ : ∃ widths, columnWidths count.columns (headers.map Cell.ofString)
      (rows.map fun row => row.map Cell.ofString) = widths := ⟨_, rfl⟩
  have hl : widths.length = headers.length := by
    rw [← hw, length_columnWidths, List.length_map]
  have hc : ∀ column (h : column < widths.length),
      IsWidest count widths[column] (linesIn column (headers :: rows)) := by
    subst hw
    exact fun column => isWidest_columnWidths count headers rows
  have hb : ∀ row ∈ headers :: rows, ∃ block, IsBlock count widths row block ∧
      rowLines count.columns widths (fit widths.length (row.map Cell.ofString)) =
        block.map fieldLine := by
    refine fun row hr => exists_isBlock count fun column h line hm => (hc column h).fits line ?_
    exact List.mem_flatMap.mpr ⟨row, hr, hm⟩
  obtain ⟨⟨head, hh, he⟩, hr⟩ := List.forall_mem_cons.mp hb
  obtain ⟨body, hs, hd⟩ := exists_blocks count hr
  refine ⟨widths, head, body, hl, hc, hh, hs, ?_⟩
  have hf : fit widths.length (headers.map Cell.ofString) = headers.map Cell.ofString := by
    rw [hl, ← List.length_map, fit_length]
  rw [lines_layOut, gridLines, hw, ← he, ← hd, hf, List.flatMap_map, List.length_map, hl]

/-- The lines of a table are borders and blocks, one block for each row and in the order of the
rows; what stands in a block are the lines of the row's own cells, and cells past the last header
stand nowhere. That is so in a terminal, and for any other way to count columns the table is laid out
for. -/
theorem exists_isTable (headers : List String) (rows : List (List String)) :
    (∃ widths head body,
        IsTable terminal headers rows (render headers rows) widths head body) ∧
      render headers rows = render headers (rows.map fun row => row.take headers.length) ∧
      ∀ count : ColumnCount,
        (∃ widths head body,
          IsTable count headers rows (layOut count.columns headers rows) widths head body) ∧
        layOut count.columns headers rows =
          layOut count.columns headers (rows.map fun row => row.take headers.length) :=
  ⟨exists_isTable_layOut terminal headers rows, layOut_take Text.width headers rows,
    fun count => ⟨exists_isTable_layOut count headers rows, layOut_take _ headers rows⟩⟩

end Table

end EditorBridge
