import EditorBridge.Proofs.TextLines
import EditorBridge.Table

/-!
The lines of a grid. Whatever the cells hold, every line of a grid begins and ends with a sign of
the grid and has no line feed in it, so a cell can neither begin a line nor end one.
-/

namespace EditorBridge

namespace Table

open Text

variable (count : List Char → Nat)

/-- A line that begins and ends with a sign of the grid, and has no line feed in it. -/
structure IsGridLine (line : List Char) : Prop where
  begins : ∃ c rest, line = c :: rest ∧ (c = '+' ∨ c = '|')
  ends : ∃ front c, line = front ++ [c] ∧ (c = '+' ∨ c = '|')
  whole : '\n' ∉ line

def Cell.IsCut (cell : Cell) : Prop := ∀ line ∈ cell, '\n' ∉ line

theorem isCut_ofString (s : String) : (Cell.ofString s).IsCut := not_mem_lines s.toList

theorem isCut_cellAt {row : List Cell} (h : ∀ cell ∈ row, cell.IsCut) (column : Nat) :
    (cellAt row column).IsCut := by
  rw [cellAt, List.getD_eq_getElem?_getD]
  cases hc : row[column]? with
  | none => simp [Cell.IsCut]
  | some cell => exact h cell (List.mem_of_getElem? hc)

theorem not_mem_getD {cell : Cell} (h : cell.IsCut) (i : Nat) : '\n' ∉ cell.getD i [] := by
  rw [List.getD_eq_getElem?_getD]
  cases hl : cell[i]? with
  | none => simp
  | some line => exact h line (List.mem_of_getElem? hl)

theorem not_mem_centre {line : List Char} (h : '\n' ∉ line) (width : Nat) :
    '\n' ∉ centre count line width := by
  simp [centre, h]

theorem isGridLine_border (widths : List Nat) : IsGridLine (border widths) := by
  refine ⟨⟨'+', _, rfl, .inl rfl⟩, ⟨_, '+', rfl, .inl rfl⟩, ?_⟩
  have hj : '\n' ∉ joinWith ['+'] (widths.map fun w => List.replicate (w + 2) '-') := by
    apply not_mem_joinWith (by decide)
    intro part hp
    obtain ⟨w, -, rfl⟩ := List.mem_map.mp hp
    simp
  simp [border, hj]

theorem isGridLine_rowLine (widths : List Nat) {row : List Cell} (h : ∀ cell ∈ row, cell.IsCut)
    (i : Nat) : IsGridLine (rowLine count widths row i) := by
  refine ⟨⟨'|', _, rfl, .inr rfl⟩, ⟨_, '|', (List.append_assoc _ [' '] ['|']).symm, .inr rfl⟩, ?_⟩
  have hj : '\n' ∉ joinWith [' ', '|', ' ']
      (List.zipWith (fun cell w => centre count (cell.getD i []) w) row widths) := by
    apply not_mem_joinWith (by decide)
    intro part hp
    obtain ⟨k, hk, rfl⟩ := List.mem_iff_getElem.mp hp
    rw [List.getElem_zipWith]
    exact not_mem_centre count (not_mem_getD (h _ (List.getElem_mem _)) i) _
  simp only [rowLine, List.mem_append, hj]
  decide

theorem isGridLine_rowLines (widths : List Nat) {row : List Cell} (h : ∀ cell ∈ row, cell.IsCut) :
    ∀ line ∈ rowLines count widths row, IsGridLine line := by
  intro line hl
  obtain ⟨i, -, rfl⟩ := List.mem_map.mp hl
  exact isGridLine_rowLine count widths h i

/-- Every line of a grid is a line of its own signs. -/
theorem isGridLine_gridLines {header : List Cell} {rows : List (List Cell)}
    (hh : ∀ cell ∈ header, cell.IsCut) (hr : ∀ row ∈ rows, ∀ cell ∈ row, cell.IsCut) :
    ∀ line ∈ gridLines count header rows, IsGridLine line := by
  intro line hl
  simp only [gridLines, List.mem_append, List.mem_singleton, List.mem_flatMap] at hl
  obtain (((rfl | hl) | rfl) | ⟨row, hm, hl⟩) | rfl := hl
  · exact isGridLine_border _
  · exact isGridLine_rowLines count _ hh line hl
  · exact isGridLine_border _
  · have hf : ∀ cell ∈ fit header.length row, cell.IsCut := by
      intro cell hc
      obtain ⟨column, -, rfl⟩ := List.mem_map.mp hc
      exact isCut_cellAt (hr row hm) column
    exact isGridLine_rowLines count _ hf line hl
  · exact isGridLine_border _

/-- Whatever the texts of a table hold, its lines are lines of the grid. -/
theorem isGridLine_ofStrings (headers : List String) (rows : List (List String)) :
    ∀ line ∈ gridLines count (headers.map Cell.ofString) (rows.map fun row => row.map Cell.ofString),
      IsGridLine line := by
  apply isGridLine_gridLines
  · intro cell hc
    obtain ⟨s, -, rfl⟩ := List.mem_map.mp hc
    exact isCut_ofString s
  · intro row hr cell hc
    obtain ⟨texts, -, rfl⟩ := List.mem_map.mp hr
    obtain ⟨s, -, rfl⟩ := List.mem_map.mp hc
    exact isCut_ofString s

theorem gridLines_ne_nil (header : List Cell) (rows : List (List Cell)) :
    gridLines count header rows ≠ [] := by
  simp [gridLines]

/-- A table is made of lines of the grid, one after the other. -/
theorem render_eq_lines (headers : List String) (rows : List (List String)) :
    ∃ lines, lines ≠ [] ∧ (∀ line ∈ lines, IsGridLine line) ∧
      (render headers rows).toList = joinWith ['\n'] lines :=
  ⟨_, gridLines_ne_nil _ _ _, isGridLine_ofStrings Text.width headers rows, String.toList_ofList⟩

/-- Lines of a grid together begin and end with its signs. -/
theorem joinWith_ends {lines : List (List Char)} (hn : lines ≠ [])
    (h : ∀ line ∈ lines, IsGridLine line) :
    (∃ c rest, joinWith ['\n'] lines = c :: rest ∧ (c = '+' ∨ c = '|')) ∧
      ∃ front c, joinWith ['\n'] lines = front ++ [c] ∧ (c = '+' ∨ c = '|') := by
  induction lines with
  | nil => exact absurd rfl hn
  | cons line lines ih =>
    obtain ⟨hline, hlines⟩ := List.forall_mem_cons.mp h
    cases lines with
    | nil => exact ⟨by simpa [joinWith] using hline.begins, by simpa [joinWith] using hline.ends⟩
    | cons next lines =>
      obtain ⟨c, rest, hc, hs⟩ := hline.begins
      obtain ⟨-, front, d, hd, he⟩ := ih (by simp) hlines
      rw [joinWith_cons]
      constructor
      · exact ⟨c, rest ++ ['\n'] ++ joinWith ['\n'] (next :: lines), by simp [hc], hs⟩
      · exact ⟨line ++ ['\n'] ++ front, d, by simp [hd], he⟩

end Table

end EditorBridge
