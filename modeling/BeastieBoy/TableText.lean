import BeastieBoy.Layout
import BeastieBoy.Shrink

/-!
# The text of a table

Every line `app_table_render` writes is a line of fields as wide as the columns,
two spaces apart; `fittedCell` is what a field shows of its text.
-/

namespace BeastieBoy

open CLib Layout

/-- The text a cell of this width shows. -/
def fittedCell (text : CString) (width : Nat) (align : AppTableAlign) : CString :=
  if text.length ≤ width then
    match align with
    | .left => text ++ List.replicate (width - text.length) ' '
    | .right => List.replicate (width - text.length) ' ' ++ text
  else if width > 3 then text.take (width - 3) ++ "...".toList
  else text.take width

theorem fittedCell_left {text : CString} {width : Nat} (fits : text.length ≤ width) :
    fittedCell text width .left = text ++ List.replicate (width - text.length) ' ' := if_pos fits

theorem fittedCell_right {text : CString} {width : Nat} (fits : text.length ≤ width) :
    fittedCell text width .right = List.replicate (width - text.length) ' ' ++ text := if_pos fits

theorem length_fittedCell (text : CString) (width : Nat) (align : AppTableAlign) :
    (fittedCell text width align).length = width := by
  have dots : "...".toList.length = 3 := rfl
  unfold fittedCell
  split
  · cases align with
    | left => simp; omega
    | right => simp; omega
  · split
    · rw [List.length_append, List.length_take, dots]
      omega
    · rw [List.length_take]
      omega

theorem appTablePrintCell_eq (value : CString) (width : Nat) (align : AppTableAlign) :
    appTablePrintCell value width align = fittedCell value width align := by
  have pad (n : Nat) : (if width > n then width - n else 0) = width - n := by
    split
    · rfl
    · omega
  unfold appTablePrintCell fittedCell appTablePrintRepeated
  by_cases fits : value.length ≤ width
  · have no_cut : ¬ value.length > width := by omega
    cases align with
    | left => simp [no_cut, fits, pad]
    | right => simp [no_cut, fits, pad]
  · have cut : value.length > width := by omega
    simp only [cut, fits, ↓reduceIte, gt_iff_lt, Nat.lt_irrefl, and_false, true_and,
      List.replicate_zero,
      List.nil_append, List.append_nil]

/-! ## The lines -/

namespace AppTable

/-- The widths come column by column. -/
theorem finalWidths_length (t : AppTable) (available : Nat) :
    (t.finalWidths available).length = t.columns.length := by
  obtain ⟨mid, final, k', k'', h, widths⟩ := t.exists_shrinks available
  have same := h.bounds.length_eq
  rw [List.length_zip, t.clampedWidths_length, Nat.min_self] at same
  rw [widths, List.length_map, ← same]

def headerLine (t : AppTable) (available : Nat) : List CString :=
  List.zipWith (fun c w => fittedCell (orEmpty c.header) w .left) t.columns
    (t.finalWidths available)

def ruleLine (t : AppTable) (available : Nat) : List CString :=
  (t.finalWidths available).map fun w => List.replicate w '-'

def rowLine (t : AppTable) (available : Nat) (cells : List (Option CString)) : List CString :=
  List.zipWith (fun (cw : AppTableColumn × Nat) cell => fittedCell (orEmpty cell) cw.2 cw.1.align)
    (t.columns.zip (t.finalWidths available)) cells

/-- The lines as lists of cells. -/
def lines (t : AppTable) (available : Nat) : List (List CString) :=
  t.headerLine available :: t.ruleLine available :: t.rows.map (t.rowLine available)

end AppTable

def columnGap : CString := [' ', ' ']

theorem appTableRender_eq {t : AppTable} (some_columns : t.columns ≠ []) (available : Nat) :
    appTableRender t available =
      (t.lines available).flatMap fun cells => columnGap.intercalate cells ++ ['\n'] := by
  have line (cells : List CString) : appTableLine cells = columnGap.intercalate cells ++ ['\n'] :=
    rfl
  simp only [appTableRender, some_columns, ↓reduceIte, appTablePrintCell_eq, line, AppTable.lines,
    List.flatMap_cons, List.flatMap_map, ← List.flatMap_def, List.append_assoc]
  rfl

theorem widths_eq_of_cells {cells : List CString} {ws : List Nat}
    (length : cells.length = ws.length)
    (fits : ∀ (j w : Nat), ws[j]? = some w → ∃ cell : CString, cells[j]? = some cell ∧
      cell.length = w) :
    widths cells = ws := by
  apply List.ext_getElem?
  intro j
  cases there : ws[j]? with
  | none =>
    rw [List.getElem?_eq_none_iff] at there ⊢
    rwa [length_widths, length]
  | some w =>
    obtain ⟨cell, found, rfl⟩ := fits j w there
    rw [widths, List.getElem?_map, found]
    rfl

section Cells
variable {t : AppTable} {available : Nat} {j : Nat} {c : AppTableColumn} {w : Nat}

theorem headerLine_cell (column : t.columns[j]? = some c)
    (width : (t.finalWidths available)[j]? = some w) :
    (t.headerLine available)[j]? = some (fittedCell (orEmpty c.header) w .left) := by
  simp [AppTable.headerLine, List.getElem?_zipWith, column, width]

theorem ruleLine_cell (width : (t.finalWidths available)[j]? = some w) :
    (t.ruleLine available)[j]? = some (List.replicate w '-') := by
  simp [AppTable.ruleLine, width]

theorem rowLine_cell {cells : List (Option CString)} (whole : cells.length = t.columns.length)
    (column : t.columns[j]? = some c) (width : (t.finalWidths available)[j]? = some w) :
    (t.rowLine available cells)[j]? =
      some (fittedCell (orEmpty (cells.getD j none)) w c.align) := by
  have inside : j < cells.length := whole ▸ (List.getElem?_eq_some_iff.1 column).1
  simp [AppTable.rowLine, List.getElem?_zipWith, column, width, inside, List.zip]

theorem exists_column (width : (t.finalWidths available)[j]? = some w) :
    ∃ c, t.columns[j]? = some c := by
  have inside := (List.getElem?_eq_some_iff.1 width).1
  rw [t.finalWidths_length] at inside
  exact ⟨_, List.getElem?_eq_getElem inside⟩

end Cells

theorem widths_line {t : AppTable} {available : Nat} {cells : List CString}
    (h : cells ∈ t.lines available) : widths cells = t.finalWidths available := by
  have length := t.finalWidths_length available
  simp only [AppTable.lines, List.mem_cons, List.mem_map] at h
  rcases h with rfl | rfl | ⟨row, member, rfl⟩
  · apply widths_eq_of_cells
    · simp [AppTable.headerLine, length]
    · intro j w width
      obtain ⟨c, column⟩ := exists_column width
      exact ⟨_, headerLine_cell column width, length_fittedCell _ _ _⟩
  · apply widths_eq_of_cells
    · simp [AppTable.ruleLine]
    · intro j w width
      exact ⟨_, ruleLine_cell width, List.length_replicate⟩
  · have whole := t.cells_length row member
    apply widths_eq_of_cells
    · simp [AppTable.rowLine, length, whole]
    · intro j w width
      obtain ⟨c, column⟩ := exists_column width
      exact ⟨_, rowLine_cell whole column width, length_fittedCell _ _ _⟩

/-- A line, with its newline off. -/
def lineText (cells : List CString) : CString := columnGap.intercalate cells

section Lines
variable {t : AppTable} {available : Nat} {cells : List CString}
    (member : cells ∈ t.lines available)
include member

theorem length_lineText :
    (lineText cells).length = (t.finalWidths available).sum + 2 * (t.columns.length - 1) := by
  have widths := widths_line member
  have length := congrArg List.length widths
  rw [length_widths, t.finalWidths_length] at length
  rw [lineText, length_intercalate, widths, length]
  rfl

theorem slice_lineText {j w : Nat} {cell : CString} (there : cells[j]? = some cell)
    (fits : cell.length = w) :
    slice (lineText cells) (offset 2 (t.finalWidths available) j) w = cell := by
  rw [← widths_line member, ← fits]
  exact slice_field there

theorem slice_lineText_gap {j w : Nat} (width : (t.finalWidths available)[j]? = some w)
    (more : j + 1 < t.columns.length) :
    slice (lineText cells) (offset 2 (t.finalWidths available) j + w) 2 = [' ', ' '] := by
  have widths := widths_line member
  rw [← t.finalWidths_length available, ← widths, length_widths] at more
  have there := List.getElem?_eq_getElem (Nat.lt_of_succ_lt more)
  have fits : cells[j].length = w := by
    rw [← widths, Layout.widths, List.getElem?_map, there] at width
    exact Option.some.inj width
  rw [← widths, ← fits]
  exact slice_gap there more

end Lines

/-- **Every line is laid out alike.** All lines are as long as the columns with
their gaps, and each column stands at the same place in all of them. -/
theorem app_table_text (t : AppTable) (available : Nat) (some_columns : t.columns ≠ []) :
    let widths := t.finalWidths available
    ∃ (header rule : CString) (rows : List CString),
      appTableRender t available = header ++ '\n' :: (rule ++ '\n' :: rows.flatMap (· ++ ['\n'])) ∧
      rows.length = t.rows.length ∧ widths.length = t.columns.length ∧
      (∀ line ∈ header :: rule :: rows,
        line.length = widths.sum + 2 * (t.columns.length - 1) ∧
        ∀ j w, widths[j]? = some w → j + 1 < t.columns.length →
          slice line (offset 2 widths j + w) 2 = [' ', ' ']) ∧
      ∀ j c w, t.columns[j]? = some c → widths[j]? = some w →
        slice header (offset 2 widths j) w = fittedCell (orEmpty c.header) w .left ∧
        slice rule (offset 2 widths j) w = List.replicate w '-' ∧
        ∀ (i : Nat) cells line, t.rows[i]? = some cells → rows[i]? = some line →
          slice line (offset 2 widths j) w =
            fittedCell (orEmpty (cells.getD j none)) w c.align := by
  have first : t.headerLine available ∈ t.lines available := List.mem_cons_self
  have second : t.ruleLine available ∈ t.lines available :=
    List.mem_cons_of_mem _ List.mem_cons_self
  have others {cells : List (Option CString)} (h : cells ∈ t.rows) :
      t.rowLine available cells ∈ t.lines available :=
    List.mem_cons_of_mem _ (List.mem_cons_of_mem _ (List.mem_map_of_mem h))
  refine ⟨lineText (t.headerLine available), lineText (t.ruleLine available),
    t.rows.map fun cells => lineText (t.rowLine available cells), ?_, List.length_map _,
    t.finalWidths_length available, ?_, ?_⟩
  · rw [appTableRender_eq some_columns]
    simp [AppTable.lines, List.flatMap_map, lineText]
  · have alike {cells : List CString} (h : cells ∈ t.lines available) :
        (lineText cells).length = (t.finalWidths available).sum + 2 * (t.columns.length - 1) ∧
          ∀ j w, (t.finalWidths available)[j]? = some w → j + 1 < t.columns.length →
            slice (lineText cells) (offset 2 (t.finalWidths available) j + w) 2 = [' ', ' '] :=
      ⟨length_lineText h, fun _ _ width more => slice_lineText_gap h width more⟩
    intro line hline
    simp only [List.mem_cons, List.mem_map] at hline
    rcases hline with rfl | rfl | ⟨cells, row, rfl⟩
    · exact alike first
    · exact alike second
    · exact alike (others row)
  · intro j c w column width
    refine ⟨?_, ?_, ?_⟩
    · exact slice_lineText first (headerLine_cell column width) (length_fittedCell _ _ _)
    · exact slice_lineText second (ruleLine_cell width) List.length_replicate
    · intro i cells line row shown
      have member := List.mem_of_getElem? row
      rw [List.getElem?_map, row] at shown
      rw [← Option.some.inj shown]
      exact slice_lineText (others member) (rowLine_cell (t.cells_length cells member) column width)
        (length_fittedCell _ _ _)

def portTable : AppTable where
  columns := [⟨some "Port".toList, 2, 8, true, .left⟩, ⟨some "N".toList, 3, 0, false, .right⟩]
  rows := [[some "Ethernet0".toList, some "7".toList], [some "lo".toList, none]]
  rowCapacity := 8
  cells_length := by decide

theorem port_table_text : ∃ (header rule first second : CString),
    appTableRender portTable 80 = header ++ '\n' ::
      (rule ++ '\n' :: (first ++ '\n' :: (second ++ ['\n']))) ∧
      slice first 0 8 = "Ether...".toList ∧ slice first 10 3 = "  7".toList ∧
      slice second 0 8 = "lo      ".toList ∧ slice second 10 3 = "   ".toList := by
  obtain ⟨header, rule, rows, text, length, _, _, cells⟩ := app_table_text portTable 80 (by decide)
  obtain ⟨first, second, rfl⟩ := List.length_eq_two.1 length
  obtain ⟨_, _, port⟩ := cells 0 _ 8 rfl rfl
  obtain ⟨_, _, number⟩ := cells 1 _ 3 rfl rfl
  refine ⟨header, rule, first, second, by simpa using text, ?_, ?_, ?_, ?_⟩
  · exact port 0 _ _ rfl rfl
  · exact number 0 _ _ rfl rfl
  · exact port 1 _ _ rfl rfl
  · exact number 1 _ _ rfl rfl

end BeastieBoy
