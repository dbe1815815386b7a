import BeastieBoy.Collectors

/-!
# Filling a text table

The part of `common/table.c` that allocates: a new table, and a row added to it.
-/

namespace BeastieBoy

open CLib Interact

def sizeofAppTableColumn : Nat := 32

def sizeofAppTableRow : Nat := 8

def sizeofCharPointer : Nat := 8

def sizeofSizeT : Nat := 8

/-- `none` is the return value `-1`. -/
def appTableInit (columns : List AppTableColumn) : Boy (Option AppTable) :=
  if columns = [] then
    pure none
  else do
    let granted : Bool ← boyCall (.calloc columns.length sizeofAppTableColumn)
    if granted then pure (some ⟨columns, [], 0, by simp⟩) else pure none

/-- `app_table_render`. Without memory for the widths nothing is printed. -/
def runAppTableRender (table : AppTable) : Boy Unit :=
  if table.columns = [] then
    boyCall (.appTableRender table false)
  else do
    let widths : Bool ← boyCall (.calloc table.columns.length sizeofSizeT)
    boyCall (.appTableRender table widths)

/-- One table is rendered, printed or not. -/
theorem follows_runAppTableRender {table : AppTable} {tr : List BoyEvent} {a : Unit}
    (h : Follows (runAppTableRender table) tr a) :
    ∃ widths, (tr = [⟨.appTableRender table widths, ()⟩] ∨
      tr = [⟨.calloc table.columns.length sizeofSizeT, widths⟩,
        ⟨.appTableRender table widths, ()⟩]) := by
  unfold runAppTableRender at h
  split at h
  · obtain ⟨_, _, rfl, ending⟩ := follows_call_iff.1 h
    obtain ⟨rfl, _⟩ := follows_done_iff.1 ending
    exact ⟨false, .inl rfl⟩
  · obtain ⟨widths, _, rfl, rest⟩ := follows_call_iff.1 h
    obtain ⟨_, _, rfl, ending⟩ := follows_call_iff.1 rest
    obtain ⟨rfl, _⟩ := follows_done_iff.1 ending
    exact ⟨widths, .inr rfl⟩

def appTableReserveRows (rowCapacity requiredCount : Nat) : Boy (Int × Nat) :=
  reserve rowCapacity sizeofAppTableRow requiredCount

/-- The copy, if there was memory for it. -/
def appTableStrdup (src : Option CString) : Boy (Option CString) := do
  let granted : Bool ← boyCall (.malloc ((orEmpty src).length + 1))
  if granted then pure (some (orEmpty src)) else pure none

/-- The `for` loop that copies the cells, given up at the first that fails. -/
def appTableCopyCells : List (Option CString) → Boy (Option (List (Option CString)))
  | [] => pure (some [])
  | cell :: cells => do
    match ← appTableStrdup cell with
    | none => pure none
    | some copy =>
      match ← appTableCopyCells cells with
      | none => pure none
      | some copies => pure (some (some copy :: copies))

/-- The first `column_count` entries of a C array. -/
def cellsRead (columnCount : Nat) (cells : List (Option CString)) : List (Option CString) :=
  (List.range columnCount).map fun i => cells.getD i none

namespace AppTable

/-- A row of `column_count` cells more, in a table with room for it. -/
def addRow (table : AppTable) (rowCapacity : Nat) (cells : List (Option CString)) : AppTable where
  columns := table.columns
  rows := table.rows ++ [cellsRead table.columns.length cells]
  rowCapacity := rowCapacity
  cells_length := by
    intro row hrow
    rcases List.mem_append.mp hrow with h | h
    · exact table.cells_length row h
    · simp only [List.mem_singleton] at h
      simp [h, cellsRead]

/-- The same rows, with room for more. -/
def withCapacity (table : AppTable) (rowCapacity : Nat) : AppTable where
  columns := table.columns
  rows := table.rows
  rowCapacity := rowCapacity
  cells_length := table.cells_length

end AppTable

/-- The return value, and the table. -/
def appTableAddRow (table : AppTable) (cells : List (Option CString)) : Boy (Int × AppTable) := do
  let reserved ← appTableReserveRows table.rowCapacity (table.rows.length + 1)
  if reserved.1 ≠ 0 then
    pure (-1, table)
  else
    let granted : Bool ← boyCall (.calloc table.columns.length sizeofCharPointer)
    if granted then
      match ← appTableCopyCells (cellsRead table.columns.length cells) with
      | none => pure (-1, table.withCapacity reserved.2)
      | some copies => pure (0, table.addRow reserved.2 copies)
    else
      pure (-1, table.withCapacity reserved.2)

end BeastieBoy
