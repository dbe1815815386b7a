import BeastieBoy.CLib.Numeral

/-!
# Text tables

The columns and rows of `app_table_t`, the column widths `app_table_render`
computes for the width it finds, and the text it writes.
-/

namespace BeastieBoy

open CLib

inductive AppTableAlign where
  | left
  | right
  deriving DecidableEq

structure AppTableColumn where
  header : Option CString
  minWidth : Nat
  /-- 0 means unlimited. -/
  maxWidth : Nat
  /-- The column can shrink when the terminal width is limited. -/
  isFlexible : Bool
  align : AppTableAlign
  deriving DecidableEq

/-- `cells[j]` exists for every column of every visible row. -/
structure AppTable where
  columns : List AppTableColumn
  rows : List (List (Option CString))
  rowCapacity : Nat
  cells_length : ∀ cells ∈ rows, cells.length = columns.length

/-- `p ? p : ""`. -/
def orEmpty (p : Option CString) : CString := p.getD []

def appTableDefaultTerminalWidth : Nat := 120

def appTableColumnGap : Nat := 2

/-- The available width, from `COLUMNS` (`none`: not set) and from the terminal
(`none`: the stream is no terminal, or its size cannot be read). -/
def appTableDetectTerminalWidth (columnsEnv : Option CString) (wsCol : Option Nat) : Nat :=
  let fromTerminal :=
    match wsCol with
    | some n => if n > 0 then n else appTableDefaultTerminalWidth
    | none => appTableDefaultTerminalWidth
  match columnsEnv with
  | none => fromTerminal
  | some env =>
    let parsed := strtoul env
    if env ≠ [] ∧ parsed.2 ≠ env ∧ parsed.2 = [] ∧ parsed.1 > 0 then parsed.1 else fromTerminal

/-- `COLUMNS` is preferred where it is a number other than zero. -/
theorem appTableDetectTerminalWidth_numeral (n : Numeral) (positive : 0 < n.toULong)
    (wsCol : Option Nat) : appTableDetectTerminalWidth (some n.text) wsCol = n.toULong := by
  have some_digit : n.text ≠ [] := by
    intro empty
    exact n.digits_ne (List.append_eq_nil_iff.1 (List.append_eq_nil_iff.1 empty).2).2
  have read : (strtoul n.text).1 = n.toULong ∧ (strtoul n.text).2 = [] := by
    rw [strtoul_numeral]
    exact ⟨rfl, rfl⟩
  have told : n.text ≠ [] ∧ (strtoul n.text).2 ≠ n.text ∧ (strtoul n.text).2 = [] ∧
      (strtoul n.text).1 > 0 := by
    rw [read.1, read.2]
    exact ⟨some_digit, some_digit.symm, rfl, positive⟩
  exact (if_pos told).trans read.1

def appTableClampWidth (width : Nat) (column : AppTableColumn) : Nat :=
  let width := if width < column.minWidth then column.minWidth else width
  if column.maxWidth ≠ 0 ∧ width > column.maxWidth then column.maxWidth else width

/-- The least width first, then the largest one, if there is one. -/
theorem appTableClampWidth_eq (width : Nat) (column : AppTableColumn) :
    appTableClampWidth width column =
      if column.maxWidth = 0 then max width column.minWidth
      else min (max width column.minWidth) column.maxWidth := by
  have wider : (if width < column.minWidth then column.minWidth else width) =
      max width column.minWidth := by
    split
    · omega
    · omega
  simp only [appTableClampWidth, wider]
  by_cases unlimited : column.maxWidth = 0
  · simp [unlimited]
  · rw [if_neg unlimited]
    split
    · omega
    · omega

namespace AppTable

def headerWidths (t : AppTable) : List Nat := t.columns.map fun c => (orEmpty c.header).length

/-- One row of the loop that looks for the longest cell of each column. -/
def widen (widths : List Nat) (cells : List (Option CString)) : List Nat :=
  List.zipWith (fun w cell => if (orEmpty cell).length > w then (orEmpty cell).length else w)
    widths cells

def naturalWidths (t : AppTable) : List Nat := t.rows.foldl widen t.headerWidths

def clampedWidths (t : AppTable) : List Nat :=
  List.zipWith appTableClampWidth t.naturalWidths t.columns

/-- What the gaps between the columns take. -/
def gaps (t : AppTable) : Nat :=
  if t.columns.length > 1 then appTableColumnGap * (t.columns.length - 1) else 0

end AppTable

/-- A `for` loop over the columns that takes one from every width that `may` be
reduced, as long as `overflow` is positive. The flag is `reduced`. -/
def shrinkPass (may : AppTableColumn → Nat → Bool) :
    List (AppTableColumn × Nat) → Nat → List (AppTableColumn × Nat) × Nat × Bool
  | [], overflow => ([], overflow, false)
  | (column, width) :: rest, overflow =>
    if overflow = 0 then ((column, width) :: rest, overflow, false)
    else if may column width then
      let next := shrinkPass may rest (overflow - 1)
      ((column, width - 1) :: next.1, next.2.1, true)
    else
      let next := shrinkPass may rest overflow
      ((column, width) :: next.1, next.2.1, next.2.2)

/-- The first `for` loop: flexible columns above their `min_width`. -/
def mayShrinkFlexible (column : AppTableColumn) (width : Nat) : Bool :=
  column.isFlexible && decide (width > column.minWidth)

/-- The second `for` loop: any column wider than three. -/
def mayShrinkAny (_ : AppTableColumn) (width : Nat) : Bool := decide (width > 3)

theorem shrinkPass_le (may : AppTableColumn → Nat → Bool) (cols : List (AppTableColumn × Nat))
    (overflow : Nat) : (shrinkPass may cols overflow).2.1 ≤ overflow := by
  induction cols generalizing overflow with
  | nil => exact Nat.le_refl _
  | cons col rest ih =>
    simp only [shrinkPass]
    split
    · exact Nat.le_refl _
    · split
      · exact Nat.le_trans (ih _) (Nat.sub_le _ _)
      · exact ih _

/-- A pass that reduced a width used up some of the overflow. -/
theorem shrinkPass_lt {may : AppTableColumn → Nat → Bool} {cols : List (AppTableColumn × Nat)}
    {overflow : Nat} (h : (shrinkPass may cols overflow).2.2 = true) :
    (shrinkPass may cols overflow).2.1 < overflow := by
  induction cols generalizing overflow with
  | nil => simp [shrinkPass] at h
  | cons col rest ih =>
    simp only [shrinkPass] at h ⊢
    split at h
    · cases h
    · rename_i positive
      simp only [positive, ↓reduceIte]
      split at h
      · rename_i allowed
        have := shrinkPass_le may rest (overflow - 1)
        simp only [allowed, ↓reduceIte]
        omega
      · rename_i refused
        simp only [refused, Bool.false_eq_true, ↓reduceIte]
        exact ih h

/-- The body of the `while` loop: a pass over the flexible columns and, when it
reduced nothing, a pass over all of them. -/
def shrinkTurn (cols : List (AppTableColumn × Nat)) (overflow : Nat) :
    List (AppTableColumn × Nat) × Nat × Bool :=
  let first := shrinkPass mayShrinkFlexible cols overflow
  if first.2.2 then first else shrinkPass mayShrinkAny first.1 first.2.1

theorem shrinkTurn_lt {cols : List (AppTableColumn × Nat)} {overflow : Nat}
    (h : (shrinkTurn cols overflow).2.2 = true) : (shrinkTurn cols overflow).2.1 < overflow := by
  have first := shrinkPass_le mayShrinkFlexible cols overflow
  simp only [shrinkTurn] at h ⊢
  split at h
  · rename_i reduced
    simp only [reduced, ↓reduceIte]
    exact shrinkPass_lt reduced
  · rename_i kept
    simp only [kept, Bool.false_eq_true, ↓reduceIte]
    exact Nat.lt_of_lt_of_le (shrinkPass_lt h) first

/-- `while (overflow > 0)`, left when a turn reduced nothing. -/
def shrinkLoop (cols : List (AppTableColumn × Nat)) (overflow : Nat) :
    List (AppTableColumn × Nat) :=
  if overflow > 0 then
    if _ : (shrinkTurn cols overflow).2.2 = true then
      shrinkLoop (shrinkTurn cols overflow).1 (shrinkTurn cols overflow).2.1
    else (shrinkTurn cols overflow).1
  else cols
termination_by overflow
decreasing_by exact shrinkTurn_lt (by assumption)

namespace AppTable

/-- The widths the table is printed with. `total_width` is a `size_t`, which the
sum is taken to fit (`finalWidths_wrapped`). -/
def finalWidths (t : AppTable) (available : Nat) : List Nat :=
  let totalWidth := t.clampedWidths.sum + t.gaps
  if totalWidth > available then
    (shrinkLoop (t.columns.zip t.clampedWidths) (totalWidth - available)).map Prod.snd
  else t.clampedWidths

/-- Then the total that a `size_t` holds gives the same widths. -/
theorem finalWidths_wrapped (t : AppTable) (available : Nat)
    (fits : t.clampedWidths.sum + t.gaps < 2 ^ 64) :
    t.finalWidths available =
      let totalWidth := (t.clampedWidths.sum + t.gaps) % 2 ^ 64
      if totalWidth > available then
        (shrinkLoop (t.columns.zip t.clampedWidths) (totalWidth - available)).map Prod.snd
      else t.clampedWidths := by
  rw [Nat.mod_eq_of_lt fits]
  rfl

end AppTable

def appTablePrintRepeated (ch : Char) (count : Nat) : CString := List.replicate count ch

def appTablePrintCell (value : CString) (width : Nat) (align : AppTableAlign) : CString :=
  let shownLen := if value.length > width then width else value.length
  let leftPad := if align = .right ∧ width > shownLen then width - shownLen else 0
  let rightPad :=
    if ¬ (align = .right ∧ width > shownLen) ∧ width > shownLen then width - shownLen else 0
  let shown :=
    if value.length > width ∧ width > 3 then value.take (width - 3) ++ "...".toList
    else if value.length > width then value.take width
    else value.take shownLen
  appTablePrintRepeated ' ' leftPad ++ shown ++ appTablePrintRepeated ' ' rightPad

/-- Cells with the gap between them and a newline behind the last. -/
def appTableLine (cells : List CString) : CString :=
  List.intercalate (appTablePrintRepeated ' ' appTableColumnGap) cells ++ ['\n']

/-- The text `app_table_render` writes when `available` columns are detected. -/
def appTableRender (t : AppTable) (available : Nat) : CString :=
  if t.columns = [] then []
  else
    let widths := t.finalWidths available
    let header :=
      List.zipWith (fun c w => appTablePrintCell (orEmpty c.header) w .left) t.columns widths
    let rule := widths.map (appTablePrintRepeated '-')
    let row (cells : List (Option CString)) :=
      List.zipWith (fun (cw : AppTableColumn × Nat) cell =>
        appTablePrintCell (orEmpty cell) cw.2 cw.1.align) (t.columns.zip widths) cells
    appTableLine header ++ appTableLine rule ++
      (t.rows.map fun cells => appTableLine (row cells)).flatten

end BeastieBoy
