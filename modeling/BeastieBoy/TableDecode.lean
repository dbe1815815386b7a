import BeastieBoy.TableText

/-!
# Reading a table back

When nothing was cut, the dashes under the header tell the widths of the columns
and the alignment of a column tells on which side its cells were padded. So the
text, with the alignments, gives the headers and the rows back.
-/

namespace BeastieBoy

open CLib Layout

/-- A field without the spaces that were added for this alignment. -/
def unpadded (field : CString) : AppTableAlign → CString
  | .left => field.rdropWhile (· = ' ')
  | .right => field.dropWhile (· = ' ')

/-- The lines of a text that ends with a newline. -/
def textLines (text : CString) : List CString := (text.splitOn '\n').dropLast

/-- The headers and the rows. -/
def decodeTable (aligns : List AppTableAlign) (text : CString) :
    Option (List CString × List (List CString)) :=
  match textLines text with
  | header :: rule :: rows =>
    let ws := widths (words ' ' rule)
    some ((cut 2 ws header).map (unpadded · .left),
      rows.map fun row => List.zipWith unpadded (cut 2 ws row) aligns)
  | _ => none

/-- A text its column shows in full, and whose end is not mistaken for padding. -/
structure Shown (column : AppTableColumn) (align : AppTableAlign) (text : CString) : Prop where
  one_line : '\n' ∉ text
  not_cut : column.maxWidth ≠ 0 → text.length ≤ column.maxWidth
  left : align = .left → text.getLast? ≠ some ' '
  right : align = .right → text.head? ≠ some ' '

instance (column : AppTableColumn) (align : AppTableAlign) (text : CString) :
    Decidable (Shown column align text) :=
  decidable_of_iff ('\n' ∉ text ∧ (column.maxWidth ≠ 0 → text.length ≤ column.maxWidth) ∧
      (align = .left → text.getLast? ≠ some ' ') ∧ (align = .right → text.head? ≠ some ' '))
    ⟨fun ⟨line, cut, left, right⟩ => ⟨line, cut, left, right⟩,
      fun ⟨line, cut, left, right⟩ => ⟨line, cut, left, right⟩⟩

/-- The tables whose text can be read back. -/
structure Decodable (t : AppTable) (available : Nat) : Prop where
  some_columns : t.columns ≠ []
  fits : t.clampedWidths.sum + t.gaps ≤ available
  solid : ∀ w ∈ t.clampedWidths, 1 ≤ w
  headers : ∀ c ∈ t.columns, Shown c .left (orEmpty c.header)
  cells : ∀ row ∈ t.rows, ∀ entry ∈ t.columns.zip row, Shown entry.1 entry.1.align (orEmpty entry.2)

/-- The texts of the headers and of the rows. -/
def AppTable.contents (t : AppTable) : List CString × List (List CString) :=
  (t.columns.map fun c => orEmpty c.header, t.rows.map fun row => row.map orEmpty)

/-! ## The widths -/

theorem le_appTableClampWidth {column : AppTableColumn} {n width : Nat} (h : n ≤ width)
    (not_cut : column.maxWidth ≠ 0 → n ≤ column.maxWidth) :
    n ≤ appTableClampWidth width column := by
  rw [appTableClampWidth_eq]
  split
  · omega
  · rename_i capped
    have := not_cut capped
    omega

namespace AppTable

variable {t : AppTable} {available : Nat}

/-- A column's clamped width leaves room for each of its texts. -/
theorem exists_clampedWidth {j : Nat} {c : AppTableColumn} (column : t.columns[j]? = some c) :
    ∃ w, t.clampedWidths[j]? = some w ∧
      ((c.maxWidth ≠ 0 → (orEmpty c.header).length ≤ c.maxWidth) → (orEmpty c.header).length ≤ w) ∧
      ∀ row ∈ t.rows, ∀ cell, row[j]? = some cell →
        (c.maxWidth ≠ 0 → (orEmpty cell).length ≤ c.maxWidth) → (orEmpty cell).length ≤ w := by
  have inside := (List.getElem?_eq_some_iff.1 column).1
  have header : t.headerWidths[j]? = some (orEmpty c.header).length := by
    simp [headerWidths, column]
  obtain ⟨w, natural, larger, cells, _⟩ := foldl_widen
    (fun row member => by rw [t.cells_length row member]; exact inside) header
  refine ⟨appTableClampWidth w c, ?_, ?_, ?_⟩
  · simp [clampedWidths, List.getElem?_zipWith, naturalWidths, natural, column]
  · exact le_appTableClampWidth larger
  · intro row member cell there not_cut
    exact le_appTableClampWidth (cells row member cell there) not_cut

theorem finalWidths_of_fits (fits : t.clampedWidths.sum + t.gaps ≤ available) :
    t.finalWidths available = t.clampedWidths := by
  have no_overflow : ¬ t.clampedWidths.sum + t.gaps > available := Nat.not_lt.2 fits
  simp only [finalWidths, no_overflow, ↓reduceIte]

end AppTable

/-! ## The fields -/

theorem unpadded_fittedCell {c : AppTableColumn} {align : AppTableAlign} {text : CString} {w : Nat}
    (shown : Shown c align text) (fits : text.length ≤ w) :
    unpadded (fittedCell text w align) align = text := by
  cases align with
  | left =>
    rw [fittedCell_left fits]
    exact rdropWhile_padding _ (shown.left rfl)
  | right =>
    rw [fittedCell_right fits]
    exact dropWhile_padding _ (shown.right rfl)

theorem not_mem_fittedCell {c : AppTableColumn} {align align' : AppTableAlign} {text : CString}
    {w : Nat}
    (shown : Shown c align text) (fits : text.length ≤ w) : '\n' ∉ fittedCell text w align' := by
  cases align' with
  | left => simp [fittedCell_left fits, shown.one_line]
  | right => simp [fittedCell_right fits, shown.one_line]

section Decode
variable {t : AppTable} {available : Nat} (h : Decodable t available)
include h

theorem Decodable.finalWidths : t.finalWidths available = t.clampedWidths :=
  AppTable.finalWidths_of_fits h.fits

theorem Decodable.cell {row : List (Option CString)} (member : row ∈ t.rows) {j : Nat}
    {c : AppTableColumn}
    {cell : Option CString} (column : t.columns[j]? = some c) (there : row[j]? = some cell) :
    Shown c c.align (orEmpty cell) := by
  have entry : (t.columns.zip row)[j]? = some (c, cell) :=
    List.getElem?_zip_eq_some.2 ⟨column, there⟩
  exact h.cells row member _ (List.mem_of_getElem? entry)

/-- A column of such a table: its width, and that its texts fit. -/
theorem Decodable.column {j : Nat} {c : AppTableColumn} (column : t.columns[j]? = some c) :
    ∃ w, (t.finalWidths available)[j]? = some w ∧ 1 ≤ w ∧ (orEmpty c.header).length ≤ w ∧
      ∀ row ∈ t.rows, ∀ cell, row[j]? = some cell → (orEmpty cell).length ≤ w := by
  obtain ⟨w, width, header, cells⟩ := t.exists_clampedWidth column
  refine ⟨w, h.finalWidths ▸ width, h.solid w (List.mem_of_getElem? width), ?_, ?_⟩
  · exact header (h.headers c (List.mem_of_getElem? column)).not_cut
  · intro row member cell there
    exact cells row member cell there (h.cell member column there).not_cut

theorem Decodable.headerLine :
    (t.headerLine available).map (unpadded · .left) = t.columns.map fun c => orEmpty c.header := by
  apply List.ext_getElem
  · simp [AppTable.headerLine, t.finalWidths_length]
  · intro j _ inside
    rw [List.length_map] at inside
    have column := List.getElem?_eq_getElem inside
    obtain ⟨w, width, _, fits, _⟩ := h.column column
    have cell := List.getElem_of_getElem? (headerLine_cell column width)
    obtain ⟨_, cell⟩ := cell
    rw [List.getElem_map, List.getElem_map, cell]
    exact unpadded_fittedCell (h.headers _ (List.getElem_mem inside)) fits

theorem Decodable.rowLine {row : List (Option CString)} (member : row ∈ t.rows) :
    List.zipWith unpadded (t.rowLine available row)
      (t.columns.map (·.align)) = row.map orEmpty := by
  have whole := t.cells_length row member
  apply List.ext_getElem
  · simp [AppTable.rowLine, t.finalWidths_length, whole]
  · intro j _ inside
    rw [List.length_map] at inside
    have there := List.getElem?_eq_getElem inside
    have column := List.getElem?_eq_getElem (whole ▸ inside)
    obtain ⟨w, width, _, _, fits⟩ := h.column column
    obtain ⟨_, cell⟩ := List.getElem_of_getElem? (rowLine_cell whole column width)
    rw [List.getElem_zipWith, List.getElem_map, List.getElem_map, cell, List.getD_eq_getElem?_getD,
      there]
    exact unpadded_fittedCell (h.cell member column there) (fits row member _ there)

theorem Decodable.ruleLine :
    widths (words ' ' (lineText (t.ruleLine available))) = t.finalWidths available := by
  have dashes : ∀ field ∈ t.ruleLine available, field ≠ [] ∧ ' ' ∉ field := by
    intro field member
    obtain ⟨w, width, rfl⟩ := List.mem_map.1 member
    have solid := h.solid w (h.finalWidths ▸ width)
    refine ⟨?_, by simp⟩
    rw [Ne, List.replicate_eq_nil_iff]
    omega
  rw [lineText, words_intercalate (by simp [columnGap]) (by simp [columnGap]) dashes]
  exact widths_line (List.mem_cons_of_mem _ List.mem_cons_self)

theorem Decodable.not_mem_field {cells : List CString} (line : cells ∈ t.lines available)
    {field : CString} (there : field ∈ cells) : '\n' ∉ field := by
  obtain ⟨j, inside, rfl⟩ := List.mem_iff_getElem.1 there
  have length := congrArg List.length (widths_line line)
  rw [length_widths, t.finalWidths_length] at length
  have inside' : j < t.columns.length := length ▸ inside
  have column := List.getElem?_eq_getElem inside'
  obtain ⟨w, width, _, fits, fit⟩ := h.column column
  simp only [AppTable.lines, List.mem_cons, List.mem_map] at line
  rcases line with rfl | rfl | ⟨row, member, rfl⟩
  · obtain ⟨_, cell⟩ := List.getElem_of_getElem? (headerLine_cell column width)
    rw [cell]
    exact not_mem_fittedCell (h.headers _ (List.getElem_mem inside')) fits
  · obtain ⟨_, cell⟩ := List.getElem_of_getElem? (ruleLine_cell width)
    rw [cell]
    simp
  · have whole := t.cells_length row member
    have there := List.getElem?_eq_getElem (whole ▸ inside' : j < row.length)
    obtain ⟨_, cell⟩ := List.getElem_of_getElem? (rowLine_cell whole column width)
    rw [cell, List.getD_eq_getElem?_getD, there]
    exact not_mem_fittedCell (h.cell member column there) (fit row member _ there)

theorem Decodable.textLines : textLines (appTableRender t available) =
    (t.lines available).map lineText := by
  have unbroken : ∀ line ∈ (t.lines available).map lineText, '\n' ∉ line := by
    intro line hline broken
    obtain ⟨cells, member, rfl⟩ := List.mem_map.1 hline
    rcases mem_intercalate broken with no | ⟨field, there, inside⟩
    · simp [columnGap] at no
    · exact h.not_mem_field member there inside
  have text : appTableRender t available = ((t.lines available).map lineText).flatMap
      (· ++ ['\n']) := by
    rw [appTableRender_eq h.some_columns, List.flatMap_map]
    rfl
  rw [BeastieBoy.textLines, text, splitOn_flatMap unbroken, List.dropLast_concat]

/-- The text of a table, with the alignments, gives its headers and its rows back. -/
theorem Decodable.decode : decodeTable (t.columns.map (·.align)) (appTableRender t available) =
    some t.contents := by
  have fields {cells : List CString} (member : cells ∈ t.lines available) :
      cut 2 (t.finalWidths available) (lineText cells) = cells := by
    rw [← widths_line member]
    exact cut_intercalate columnGap cells
  rw [decodeTable, h.textLines, AppTable.lines, List.map_cons, List.map_cons]
  simp only [h.ruleLine, List.map_map]
  rw [fields List.mem_cons_self, h.headerLine]
  congr 2
  apply List.map_congr_left
  intro row member
  have line : t.rowLine available row ∈ t.lines available :=
    List.mem_cons_of_mem _ (List.mem_cons_of_mem _ (List.mem_map_of_mem member))
  rw [Function.comp_apply, Function.comp_apply, fields line, h.rowLine member]

end Decode

/-- **A table's text holds the table.** With the alignments the text gives the
headers and the rows back, so no other table aligned alike has the same text. -/
theorem table_read_back {t : AppTable} {available : Nat} (h : Decodable t available) :
    decodeTable (t.columns.map (·.align)) (appTableRender t available) = some t.contents ∧
      ∀ t' available', Decodable t' available' →
        t'.columns.map (·.align) = t.columns.map (·.align) →
        appTableRender t' available' = appTableRender t available → t'.contents = t.contents := by
  refine ⟨h.decode, fun t' available' h' aligned same => ?_⟩
  have decoded := h'.decode
  rw [aligned, same, h.decode] at decoded
  exact (Option.some.inj decoded).symm

/-- Columns aligned both ways, a cell that is missing and one that is empty. -/
def threeRows : AppTable where
  columns := [⟨some "Interface Name".toList, 14, 0, true, .left⟩,
    ⟨some "Socket-ID".toList, 9, 12, false, .right⟩, ⟨some "Flags".toList, 5, 0, true, .left⟩]
  rows := [[some "memif0/0".toList, some "0".toList, some "admin-up link-up".toList],
    [some "memif12/3".toList, some "4294967295".toList, none],
    [some [], some "7".toList, some "none".toList]]
  rowCapacity := 8
  cells_length := by simp

theorem decodable_threeRows : Decodable threeRows 80 :=
  ⟨by decide, by decide, by decide, by decide, by decide⟩

theorem threeRows_read_back :
    decodeTable [.left, .right, .left] (appTableRender threeRows 80) =
      some (["Interface Name".toList, "Socket-ID".toList, "Flags".toList],
        [["memif0/0".toList, "0".toList, "admin-up link-up".toList],
          ["memif12/3".toList, "4294967295".toList, []], [[], "7".toList, "none".toList]]) :=
  (table_read_back decodable_threeRows).1

/-- One column, three wide, with one cell. -/
def oneCell (align : AppTableAlign) (cell : CString) : AppTable where
  columns := [⟨some "Abc".toList, 1, 0, false, align⟩]
  rows := [[some cell]]
  rowCapacity := 8
  cells_length := by simp

theorem decodable_left : Decodable (oneCell .left "x".toList) 80 :=
  ⟨by decide, by decide, by decide, by decide, by decide⟩

theorem decodable_right : Decodable (oneCell .right "x  ".toList) 80 :=
  ⟨by decide, by decide, by decide, by decide, by decide⟩

/-- Without the alignments the spaces of a cell cannot be told from its padding. -/
theorem alignment_not_shown : ∃ t t' available, Decodable t available ∧ Decodable t' available ∧
    t.contents ≠ t'.contents ∧ appTableRender t available = appTableRender t' available :=
  ⟨_, _, 80, decodable_left, decodable_right, by decide, by decide⟩

end BeastieBoy
