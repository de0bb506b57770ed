import EditorBridge.Proofs.TableGrid
import EditorBridge.Proofs.TextWidth
import Mathlib.Algebra.GroupWithZero.Nat

/-!
The columns of a grid. However columns are counted, as long as a sign of the grid adds its own to
those of the texts around it, every line of a grid takes the same number of columns, its signs stand
below each other, and each column is as wide as the widest line that stands in it.
-/

namespace EditorBridge

namespace Table

open Text

variable (count : ColumnCount)

/-! ### Ruled lines -/

section

variable {sign fill : Char}

/-- Parts with a fill on both sides and a sign in front: what stands before the sign behind them. -/
def beforeSign (sign fill : Char) (parts : List (List Char)) : List Char :=
  parts.flatMap fun part => sign :: fill :: (part ++ [fill])

/-- A line of parts with a fill on both sides of each, and a sign between any two and at the ends. -/
def ruled (sign fill : Char) (parts : List (List Char)) : List Char :=
  beforeSign sign fill parts ++ [sign]

/-- The terminal column of the sign in front of a column. -/
def signColumn (widths : List Nat) (column : Nat) : Nat := ((widths.take column).map (· + 3)).sum

theorem columns_beforeSign (hs : isSign sign = true) (hf : isSign fill = true)
    (parts : List (List Char)) :
    count.columns (beforeSign sign fill parts) =
      ((parts.map count.columns).map (· + 3)).sum := by
  induction parts with
  | nil => exact count.columns_nil
  | cons part parts ih =>
    have he : beforeSign sign fill (part :: parts) =
        sign :: fill :: (part ++ fill :: beforeSign sign fill parts) := by simp [beforeSign]
    rw [he, count.columns_sign_cons hs, count.columns_sign_cons hf, count.columns_sign hf, ih]
    simp only [List.map_cons, List.sum_cons]
    omega

theorem columns_ruled (hs : isSign sign = true) (hf : isSign fill = true)
    (parts : List (List Char)) :
    count.columns (ruled sign fill parts) =
      1 + ((parts.map count.columns).map (· + 3)).sum := by
  rw [ruled, count.columns_sign hs, columns_beforeSign count hs hf, count.columns_nil]
  omega

/-- Each sign of a ruled line stands behind the parts before it. -/
theorem exists_sign (parts : List (List Char)) (column : Nat) :
    ∃ after, ruled sign fill parts = beforeSign sign fill (parts.take column) ++ sign :: after := by
  have he : ruled sign fill parts = beforeSign sign fill (parts.take column) ++
      ruled sign fill (parts.drop column) := by
    rw [ruled, ruled, ← List.append_assoc, beforeSign, beforeSign, beforeSign,
      ← List.flatMap_append, List.take_append_drop]
  cases hd : parts.drop column with
  | nil => exact ⟨[], by rw [he, hd]; rfl⟩
  | cons part rest => exact ⟨_, by rw [he, hd]; rfl⟩

/-- A line whose parts have the widths of columns, so that its signs stand where they should. -/
structure IsRuled (widths : List Nat) (sign fill : Char) (parts : List (List Char))
    (line : List Char) : Prop where
  line_eq : line = ruled sign fill parts
  parts_fit : parts.map count.columns = widths
  signs (column : Nat) : column ≤ widths.length →
    ∃ after, line = beforeSign sign fill (parts.take column) ++ sign :: after ∧
      count.columns (beforeSign sign fill (parts.take column)) = signColumn widths column

theorem isRuled_ruled (hs : isSign sign = true) (hf : isSign fill = true) {widths : List Nat}
    {parts : List (List Char)} (h : parts.map count.columns = widths) :
    IsRuled count widths sign fill parts (ruled sign fill parts) where
  line_eq := rfl
  parts_fit := h
  signs column hc := by
    obtain ⟨after, ha⟩ := @exists_sign sign fill parts column
    exact ⟨after, ha, by rw [columns_beforeSign count hs hf, List.map_take, h, signColumn]⟩

end

/-- A border is ruled with pluses and filled with dashes. -/
theorem border_eq_ruled {widths : List Nat} (h : widths ≠ []) :
    border widths = ruled '+' '-' (widths.map fun w => List.replicate w '-') := by
  have hj : ∀ widths : List Nat, widths ≠ [] →
      '+' :: joinWith ['+'] (widths.map fun w => List.replicate (w + 2) '-') =
        beforeSign '+' '-' (widths.map fun w => List.replicate w '-') := by
    intro widths hn
    induction widths with
    | nil => exact absurd rfl hn
    | cons w rest ih =>
      have hw : List.replicate (w + 2) '-' = '-' :: (List.replicate w '-' ++ ['-']) := by
        rw [← List.replicate_succ', ← List.replicate_succ]
      cases rest with
      | nil => simp [joinWith, beforeSign, hw]
      | cons next rest =>
        have hr := ih (by simp)
        simp only [List.map_cons, beforeSign, List.flatMap_cons] at hr ⊢
        rw [joinWith_cons, hw, ← hr]
        simp
  rw [border, hj widths h, ruled]

/-- A line of a row is ruled with bars and filled with blanks. -/
theorem rowLine_eq_ruled {columns : List Char → Nat} {widths : List Nat} {row : List Cell} {i : Nat} {parts : List (List Char)}
    (hp : List.zipWith (fun cell w => centre columns (cell.getD i []) w) row widths = parts)
    (h : parts ≠ []) : rowLine columns widths row i = ruled '|' ' ' parts := by
  have hj : ∀ parts : List (List Char), parts ≠ [] →
      ['|', ' '] ++ joinWith [' ', '|', ' '] parts ++ [' '] = beforeSign '|' ' ' parts := by
    intro parts hn
    induction parts with
    | nil => exact absurd rfl hn
    | cons part rest ih =>
      cases rest with
      | nil => simp [joinWith, beforeSign]
      | cons next rest =>
        have hr := ih (by simp)
        simp only [beforeSign, List.flatMap_cons] at hr ⊢
        rw [joinWith_cons, ← hr]
        simp
  rw [rowLine, hp, ruled, ← hj parts h]
  simp

/-! ### The widths of columns -/

/-- A width that is the greatest of some lines, or that of no line at all. -/
structure IsWidest (width : Nat) (lines : List (List Char)) : Prop where
  fits : ∀ line ∈ lines, count.columns line ≤ width
  needed : width = 0 ∨ ∃ line ∈ lines, count.columns line = width

def linesIn (column : Nat) (table : List (List String)) : List (List Char) :=
  table.flatMap fun row => row[column]?.toList.flatMap fun cell => lines cell.toList

theorem foldr_max_le {xs : List Nat} {n : Nat} : xs.foldr max 0 ≤ n ↔ ∀ x ∈ xs, x ≤ n := by
  induction xs with
  | nil => simp
  | cons x xs ih => simp only [List.foldr_cons, Nat.max_le, ih, List.forall_mem_cons]

/-- A width with the bounds of lines is that of the widest of them. -/
theorem isWidest_of_le_iff {width : Nat} {lines : List (List Char)}
    (h : ∀ n, width ≤ n ↔ ∀ line ∈ lines, count.columns line ≤ n) :
    IsWidest count width lines where
  fits := (h width).mp (Nat.le_refl width)
  needed := by
    refine Classical.or_iff_not_imp_left.mpr fun h0 => Classical.byContradiction fun hl => h0 ?_
    -- Otherwise one column less would do for all lines.
    have hw : width ≤ width - 1 := by
      refine (h (width - 1)).mpr fun line hm => ?_
      have hle := (h width).mp (Nat.le_refl width) line hm
      have hne : count.columns line ≠ width := fun he => hl ⟨line, hm, he⟩
      omega
    omega

theorem cellAt_ofString (row : List String) (column : Nat) :
    cellAt (row.map Cell.ofString) column =
      row[column]?.toList.flatMap fun cell => lines cell.toList := by
  rw [cellAt, List.getD_eq_getElem?_getD, List.getElem?_map]
  cases row[column]? <;> simp [Cell.ofString]

theorem length_columnWidths (columns : List Char → Nat) (header : List Cell)
    (rows : List (List Cell)) : (columnWidths columns header rows).length = header.length := by
  rw [columnWidths, List.length_map, List.length_range]

theorem getElem_columnWidths {columns : List Char → Nat} {header : List Cell}
    {rows : List (List Cell)} {column : Nat}
    (hc : column < (columnWidths columns header rows).length) :
    (columnWidths columns header rows)[column] =
      ((header :: rows).map fun row => (cellAt row column).width columns).foldr max 0 := by
  simp only [columnWidths, List.getElem_map, List.getElem_range]

/-- A column is as wide as the widest line of its header and cells. -/
theorem isWidest_columnWidths (headers : List String) (rows : List (List String)) {column : Nat}
    (hc : column < (columnWidths count.columns (headers.map Cell.ofString)
      (rows.map fun row => row.map Cell.ofString)).length) :
    IsWidest count (columnWidths count.columns (headers.map Cell.ofString)
      (rows.map fun row => row.map Cell.ofString))[column] (linesIn column (headers :: rows)) := by
  apply isWidest_of_le_iff
  intro n
  have hm : (headers.map Cell.ofString :: rows.map fun row => row.map Cell.ofString) =
      (headers :: rows).map fun row => row.map Cell.ofString := rfl
  rw [getElem_columnWidths, hm, foldr_max_le, List.map_map, List.forall_mem_map, linesIn,
    List.forall_mem_flatMap]
  refine forall₂_congr fun row _ => ?_
  rw [Function.comp_apply, cellAt_ofString, Cell.width, foldr_max_le, List.forall_mem_map]

/-! ### The lines of a grid -/

/-- A line that fits is centred to the width of its column. -/
theorem columns_centre {line : List Char} {width : Nat} (h : count.columns line ≤ width) :
    count.columns (centre count.columns line width) = width := by
  have hb : isSign ' ' = true := rfl
  rw [centre, List.append_assoc, count.columns_signs_append hb, count.columns_append_signs hb]
  omega

theorem fit_length (row : List Cell) : fit row.length row = row := by
  apply List.ext_getElem
  · simp [fit]
  · intro column _ h
    simp [fit, cellAt, List.getD_eq_getElem?_getD, h]

def fields (widths : List Nat) (row : List Cell) (i : Nat) : List (List Char) :=
  List.zipWith (fun cell w => centre count.columns (cell.getD i []) w) (fit widths.length row)
    widths

theorem length_fields (widths : List Nat) (row : List Cell) (i : Nat) :
    (fields count widths row i).length = widths.length := by
  simp [fields, fit]

theorem getElem_fields {widths : List Nat} {row : List Cell} {i column : Nat}
    (h : column < (fields count widths row i).length) (hw : column < widths.length) :
    (fields count widths row i)[column] =
      centre count.columns ((cellAt row column).getD i []) widths[column] := by
  simp [fields, fit]

/-- Whether a field holds one of some lines or none, with blanks around it. -/
def Holds (field : List Char) (lines : List (List Char)) : Prop :=
  ∃ left right line, field = List.replicate left ' ' ++ line ++ List.replicate right ' ' ∧
    (line = [] ∨ line ∈ lines)

/-- A grid whose columns are as wide as they have to be, and stand below each other in all lines. -/
structure IsAligned (headers : List String) (rows : List (List String)) (grid : String)
    (widths : List Nat) : Prop where
  columns : widths.length = headers.length
  widest (column : Nat) (h : column < widths.length) :
    IsWidest count widths[column] (linesIn column (headers :: rows))
  width_eq : ∀ line ∈ splitLineFeeds grid.toList,
    count.columns line = 1 + (widths.map (· + 3)).sum
  borders : ∃ line, (splitLineFeeds grid.toList).head? = some line ∧
    IsRuled count widths '+' '-' (widths.map fun w => List.replicate w '-') line
  lines : ∀ line ∈ splitLineFeeds grid.toList,
    IsRuled count widths '+' '-' (widths.map fun w => List.replicate w '-') line ∨
      ∃ fields, IsRuled count widths '|' ' ' fields line ∧
        ∀ column field, fields[column]? = some field →
          Holds field (linesIn column (headers :: rows))

theorem getD_cellAt (row : List String) (column i : Nat) {table : List (List String)}
    (h : row ∈ table) :
    (cellAt (row.map Cell.ofString) column).getD i [] = [] ∨
      (cellAt (row.map Cell.ofString) column).getD i [] ∈ linesIn column table := by
  rw [List.getD_eq_getElem?_getD]
  cases hl : (cellAt (row.map Cell.ofString) column)[i]? with
  | none => exact .inl rfl
  | some line =>
    have hm := List.mem_of_getElem? hl
    rw [cellAt_ofString] at hm
    exact .inr (List.mem_flatMap.mpr ⟨row, h, hm⟩)

/-- A line of a row of a table whose columns are wide enough. -/
theorem isRuled_rowLine {widths : List Nat} (hn : widths ≠ []) {table : List (List String)}
    (hw : ∀ column (h : column < widths.length),
      IsWidest count widths[column] (linesIn column table))
    {row : List String} (hr : row ∈ table) (i : Nat) :
    ∃ parts, IsRuled count widths '|' ' ' parts
        (rowLine count.columns widths (fit widths.length (row.map Cell.ofString)) i) ∧
      ∀ column field, parts[column]? = some field → Holds field (linesIn column table) := by
  have hl := length_fields count widths (row.map Cell.ofString) i
  have hf : fields count widths (row.map Cell.ofString) i ≠ [] := by
    intro he
    exact hn (List.length_eq_zero_iff.mp (by rw [← hl, he, List.length_nil]))
  refine ⟨fields count widths (row.map Cell.ofString) i, ?_, ?_⟩
  · rw [rowLine_eq_ruled rfl hf]
    apply isRuled_ruled count rfl rfl
    apply List.ext_getElem
    · simp [hl]
    · intro column hc h
      rw [List.getElem_map, getElem_fields count _ h]
      apply columns_centre
      obtain he | hm := getD_cellAt row column i hr
      · rw [he, count.columns_nil]
        exact Nat.zero_le _
      · exact (hw column h).fits _ hm
  · intro column field hc
    obtain ⟨h, rfl⟩ := List.getElem?_eq_some_iff.mp hc
    rw [getElem_fields count h (hl ▸ h)]
    exact ⟨_, _, _, rfl, getD_cellAt row column i hr⟩

/-- Every line of a grid that has a column is a border or a line of a row. -/
theorem mem_gridLines {columns : List Char → Nat} {headers : List String}
    {rows : List (List String)} {line : List Char} {widths : List Nat}
    (hw : columnWidths columns (headers.map Cell.ofString)
      (rows.map fun row => row.map Cell.ofString) = widths)
    (h : line ∈ gridLines columns (headers.map Cell.ofString)
      (rows.map fun row => row.map Cell.ofString)) :
    line = border widths ∨ ∃ row ∈ headers :: rows, ∃ i,
      line = rowLine columns widths (fit widths.length (row.map Cell.ofString)) i := by
  have hl : widths.length = (headers.map Cell.ofString).length := hw ▸ length_columnWidths _ _ _
  simp only [gridLines, hw, List.mem_append, List.mem_singleton, List.mem_flatMap,
    List.mem_map] at h
  obtain (((rfl | h) | rfl) | ⟨row, ⟨texts, ht, rfl⟩, h⟩) | rfl := h
  · exact .inl rfl
  · obtain ⟨i, -, rfl⟩ := List.mem_map.mp h
    exact .inr ⟨headers, by simp, i, by rw [hl, fit_length]⟩
  · exact .inl rfl
  · obtain ⟨i, -, rfl⟩ := List.mem_map.mp h
    exact .inr ⟨texts, by simp [ht], i, by rw [hl]⟩
  · exact .inl rfl

/-- Between its line feeds a table has the lines of its grid. -/
theorem splitLineFeeds_layOut (columns : List Char → Nat) (headers : List String)
    (rows : List (List String)) :
    splitLineFeeds (layOut columns headers rows).toList =
      gridLines columns (headers.map Cell.ofString)
        (rows.map fun row => row.map Cell.ofString) := by
  rw [layOut, String.toList_ofList]
  exact splitLineFeeds_joinWith (gridLines_ne_nil columns _ _)
    fun line hm => (isGridLine_ofStrings columns headers rows line hm).whole

theorem isRuled_border {widths : List Nat} (h : widths ≠ []) :
    IsRuled count widths '+' '-' (widths.map fun w => List.replicate w '-') (border widths) := by
  rw [border_eq_ruled h]
  apply isRuled_ruled count rfl rfl
  rw [List.map_map]
  conv => rhs; rw [← List.map_id widths]
  refine List.map_congr_left fun w _ => ?_
  simpa [count.columns_nil] using count.columns_append_signs (c := '-') rfl [] w

theorem isAligned_layOut (headers : List String) (rows : List (List String)) (h : headers ≠ []) :
    IsAligned count headers rows (layOut count.columns headers rows)
      (columnWidths count.columns (headers.map Cell.ofString)
        (rows.map fun row => row.map Cell.ofString)) := by
  obtain ⟨widths, hw⟩ : ∃ widths, columnWidths count.columns (headers.map Cell.ofString)
      (rows.map fun row => row.map Cell.ofString) = widths := ⟨_, rfl⟩
  have hl : widths.length = headers.length := by
    rw [← hw, length_columnWidths, List.length_map]
  have hn : widths ≠ [] := by
    intro he
    exact h (List.length_eq_zero_iff.mp (by rw [← hl, he, List.length_nil]))
  have hs := splitLineFeeds_layOut count.columns headers rows
  have hc : ∀ column (h : column < widths.length),
      IsWidest count widths[column] (linesIn column (headers :: rows)) := by
    subst hw
    exact fun column => isWidest_columnWidths count headers rows
  have hb := isRuled_border count hn
  have hr : ∀ line ∈ splitLineFeeds (layOut count.columns headers rows).toList,
      IsRuled count widths '+' '-' (widths.map fun w => List.replicate w '-') line ∨
        ∃ fields, IsRuled count widths '|' ' ' fields line ∧
          ∀ column field, fields[column]? = some field →
            Holds field (linesIn column (headers :: rows)) := by
    intro line hm
    obtain rfl | ⟨row, hrow, i, rfl⟩ := mem_gridLines hw (hs ▸ hm)
    · exact .inl hb
    · exact .inr (isRuled_rowLine count hn hc hrow i)
  rw [hw]
  refine ⟨hl, hc, fun line hm => ?_, ⟨border widths, ?_, hb⟩, hr⟩
  · obtain hi | ⟨fields, hi, -⟩ := hr line hm
    · rw [hi.line_eq, columns_ruled count rfl rfl, hi.parts_fit]
    · rw [hi.line_eq, columns_ruled count rfl rfl, hi.parts_fit]
  · rw [hs, gridLines, hw]
    rfl

/-- The lines of a table with a column are equally wide, their signs stand below each other, and
each column is as wide as the widest line of its cells. That is so in a terminal, and for any other
way to count columns the table is laid out for. -/
theorem exists_isAligned (headers : List String) (rows : List (List String))
    (h : headers ≠ []) :
    (∃ widths, IsAligned terminal headers rows (render headers rows) widths) ∧
      ∀ count : ColumnCount, ∃ widths,
        IsAligned count headers rows (layOut count.columns headers rows) widths :=
  ⟨⟨_, isAligned_layOut terminal headers rows h⟩,
    fun count => ⟨_, isAligned_layOut count headers rows h⟩⟩

/-- Wide, combining and joined characters, rows of other lengths and a cell of three lines. -/
theorem isAligned_ragged :
    let headers := ["Статус", ""]
    let rows := [["✅\n👩‍🔬\r\n", "e\u0301"], [], ["a", "|", "dropped"]]
    headers ≠ [] ∧ (∃ widths, IsAligned terminal headers rows (render headers rows) widths) ∧
      ∀ count : ColumnCount, ∃ widths,
        IsAligned count headers rows (layOut count.columns headers rows) widths :=
  ⟨by decide, exists_isAligned _ _ (by decide)⟩

end Table

end EditorBridge
