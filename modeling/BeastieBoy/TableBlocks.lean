import BeastieBoy.BoyHeap
import BeastieBoy.TableMemory
import Mathlib.Tactic.Abel

/-!
# Tables on the heap

`common/table.c` with the blocks it allocates and frees. A table holds its
columns, its array of rows and, for each visible row, an array of cells and every
cell in it. Without the addresses it is the memory of `AppTableMemory`.
-/

namespace BeastieBoy

open CLib Interact Interact.Prog

/-- A `char *` with the text it points to. -/
abbrev HeapCell := Option (Address × CString)

/-- An `app_table_row_t`, which may be left from an earlier call or none. -/
inductive HeapRow where
  | unset
  | null
  | cells (block : Address) (cells : List HeapCell)

structure HeapTable where
  columns : List AppTableColumn
  columnsBlock : Option Address
  /-- The whole array. -/
  rows : List HeapRow
  rowsBlock : Option Address
  rowCount : Nat

namespace HeapTable

/-- `memset(table, 0, sizeof(*table))`. -/
def zero : HeapTable := ⟨[], none, [], none, 0⟩

def withRows (t : HeapTable) (block : Option Address) (rowCapacity : Nat) : HeapTable :=
  { t with
    rows := t.rows ++ List.replicate (rowCapacity - t.rows.length) .unset,
    rowsBlock := block }

def setRow (t : HeapTable) (row : HeapRow) : HeapTable :=
  { t with rows := t.rows.set t.rowCount row }

def countRow (t : HeapTable) : HeapTable := { t with rowCount := t.rowCount + 1 }

def visibleRows (t : HeapTable) : List HeapRow := t.rows.take t.rowCount

end HeapTable

namespace Heap

def appTableStrdup (src : Option CString) : OnHeap HeapCell := do
  let block : Option Address ← memCall (.malloc ((orEmpty src).length + 1))
  pure (block.map fun b => (b, orEmpty src))

/-- The return value, and `*table`. -/
def appTableInit (table : HeapTable) (columns : List AppTableColumn) : OnHeap (Int × HeapTable) :=
  if columns = [] then
    pure (-1, table)
  else do
    let block : Option Address ← memCall (.calloc columns.length sizeofAppTableColumn)
    match block with
    | some b => pure (0, { HeapTable.zero with columns := columns, columnsBlock := some b })
    | none => pure (-1, .zero)

def freeCells : List HeapCell → OnHeap Unit
  | [] => pure ()
  | cell :: cells => do
    memCall (.free (cell.map Prod.fst))
    freeCells cells

/-- The body of the outer `for` loop of `app_table_free`. -/
def freeRow (columnCount : Nat) : HeapRow → OnHeap Unit
  | .cells block cells =>
    if cells.length < columnCount then memCall .undefined
    else do
      freeCells (cells.take columnCount)
      memCall (.free (some block))
  | .null => if columnCount = 0 then memCall (.free none) else memCall .undefined
  | .unset => memCall .undefined

def freeRows (columnCount : Nat) : List HeapRow → OnHeap Unit
  | [] => pure ()
  | row :: rows => do
    freeRow columnCount row
    freeRows columnCount rows

/-- What it leaves in `*table`. -/
def appTableFree (table : HeapTable) : OnHeap HeapTable := do
  freeRows table.columns.length table.visibleRows
  memCall (.free table.rowsBlock)
  memCall (.free table.columnsBlock)
  pure .zero

/-- The `for` loop over the cells, with the cells of `row` that were written so
far, and what follows it. -/
def copyCells (table : HeapTable) (block : Address) (done : List HeapCell) :
    List (Option CString) → OnHeap (Int × HeapTable)
  | [] => pure (0, (table.setRow (.cells block done)).countRow)
  | cell :: cells => do
    let copy ← appTableStrdup cell
    match copy with
    | some _ => copyCells table block (done ++ [copy]) cells
    | none =>
      freeCells done
      memCall (.free (some block))
      pure (-1, table.setRow .null)

/-- The array of cells may itself be `NULL`. -/
def appTableAddRow (table : HeapTable) : Option (List (Option CString)) → OnHeap (Int × HeapTable)
  | none => pure (-1, table)
  | some cells => do
    let reserved ← reserve table.rowsBlock table.rows.length sizeofAppTableRow (table.rowCount + 1)
    if reserved.1 ≠ 0 then
      pure (-1, table)
    else
      let table := table.withRows reserved.2.1 reserved.2.2
      let block : Option Address ← memCall (.calloc table.columns.length sizeofCharPointer)
      match block with
      | some b => copyCells table b [] (cellsRead table.columns.length cells)
      | none => pure (-1, table.setRow .null)

end Heap

/-! ## What a table holds -/

def cellBlocks (cells : List HeapCell) : Multiset Address :=
  (cells.map fun cell => blockAt (cell.map Prod.fst)).sum

def HeapRow.blocks : HeapRow → Multiset Address
  | .cells block copies => {block} + cellBlocks copies
  | _ => 0

/-- An array of `n` cells, all of them copied. -/
def HeapRow.Whole (n : Nat) : HeapRow → Prop
  | .cells _ copies => copies.length = n ∧ ∀ cell ∈ copies, cell.isSome = true
  | _ => False

namespace HeapTable

def blocks (t : HeapTable) : Multiset Address :=
  blockAt t.columnsBlock + (blockAt t.rowsBlock + (t.visibleRows.map HeapRow.blocks).sum)

/-- What every call keeps. -/
structure Sound (t : HeapTable) : Prop where
  room : t.rowCount ≤ t.rows.length
  whole : ∀ row ∈ t.visibleRows, row.Whole t.columns.length

theorem sound_zero : Sound zero := ⟨Nat.le_refl _, by simp [visibleRows, zero]⟩

@[simp] theorem blocks_zero : zero.blocks = 0 := rfl

variable {t : HeapTable}

@[simp] theorem setRow_columns (row : HeapRow) : (t.setRow row).columns = t.columns := rfl

@[simp] theorem setRow_visibleRows (row : HeapRow) : (t.setRow row).visibleRows = t.visibleRows :=
  List.take_set_of_le (Nat.le_refl _)

@[simp] theorem setRow_blocks (row : HeapRow) : (t.setRow row).blocks = t.blocks := by
  simp only [blocks, setRow_visibleRows]
  rfl

theorem withRows_visibleRows (h : t.Sound) (block : Option Address) (rowCapacity : Nat) :
    (t.withRows block rowCapacity).visibleRows = t.visibleRows :=
  List.take_append_of_le_length h.room

theorem withRows_length {rowCapacity : Nat} (larger : t.rows.length ≤ rowCapacity)
    (block : Option Address) :
    (t.withRows block rowCapacity).rows.length = rowCapacity := by
  simp only [withRows, List.length_append, List.length_replicate]
  omega

/-- A row that is counted becomes the last visible one. -/
theorem countRow_setRow_visibleRows (row : HeapRow) (room : t.rowCount < t.rows.length) :
    (t.setRow row).countRow.visibleRows = t.visibleRows ++ [row] := by
  have last : t.rowCount < (t.rows.set t.rowCount row).length := by rwa [List.length_set]
  simp only [visibleRows, countRow, setRow]
  rw [List.take_succ_eq_append_getElem last, List.take_set_of_le (Nat.le_refl _),
    List.getElem_set_self]

theorem countRow_setRow_blocks (row : HeapRow) (room : t.rowCount < t.rows.length) :
    (t.setRow row).countRow.blocks = row.blocks + t.blocks := by
  have rest : (t.setRow row).countRow.blocks =
      blockAt t.columnsBlock +
        (blockAt t.rowsBlock + ((t.visibleRows ++ [row]).map HeapRow.blocks).sum) := by
    rw [← countRow_setRow_visibleRows row room]
    rfl
  rw [rest, List.map_append, List.sum_append, blocks]
  simp only [List.map_cons, List.map_nil, List.sum_cons, List.sum_nil, add_zero]
  abel

theorem Sound.setRow (h : t.Sound) (row : HeapRow) : (t.setRow row).Sound := by
  refine ⟨?_, ?_⟩
  · exact h.room.trans_eq List.length_set.symm
  · rw [setRow_visibleRows]
    exact h.whole

theorem Sound.withRows (h : t.Sound) {block : Option Address} {rowCapacity : Nat}
    (larger : t.rows.length ≤ rowCapacity) : (t.withRows block rowCapacity).Sound := by
  refine ⟨?_, ?_⟩
  · rw [withRows_length larger]
    exact h.room.trans larger
  · rw [withRows_visibleRows h]
    exact h.whole

theorem Sound.countRow (h : t.Sound) {row : HeapRow} (room : t.rowCount < t.rows.length)
    (whole : row.Whole t.columns.length) : (t.setRow row).countRow.Sound := by
  refine ⟨?_, ?_⟩
  · exact Nat.succ_le_of_lt (room.trans_eq List.length_set.symm)
  · rw [countRow_setRow_visibleRows row room]
    intro row' there
    rcases List.mem_append.1 there with earlier | last
    · exact h.whole row' earlier
    · rw [List.mem_singleton.1 last]
      exact whole

end HeapTable

/-! ## What a call holds -/

theorem holds_appTableStrdup (src : Option CString) (mine : Multiset Address) :
    Holds (fun o mine' => mine' = blockAt (o.map Prod.fst) + mine)
      (Heap.appTableStrdup src) mine := by
  apply (holds_malloc _).bind
  rintro block _ rfl
  cases block with
  | none => rfl
  | some b => rfl

theorem holds_freeCells (cells : List HeapCell) (mine : Multiset Address) :
    Holds (fun _ mine' => mine' = mine) (Heap.freeCells cells) (cellBlocks cells + mine) := by
  induction cells with
  | nil => exact zero_add mine
  | cons cell cells ih =>
    have held : cellBlocks (cell :: cells) + mine =
        blockAt (cell.map Prod.fst) + (cellBlocks cells + mine) := by
      rw [← add_assoc]
      rfl
    rw [held]
    apply (holds_free _).bind
    rintro _ _ rfl
    exact ih

/-- A row is freed cell by cell, and then its array. -/
theorem holds_freeRow {n : Nat} {row : HeapRow} (whole : row.Whole n) (mine : Multiset Address) :
    Holds (fun _ mine' => mine' = mine) (Heap.freeRow n row) (row.blocks + mine) := by
  cases row with
  | unset => exact whole.elim
  | null => exact whole.elim
  | cells block cells =>
    obtain ⟨length, _⟩ := whole
    have held : (HeapRow.cells block cells).blocks + mine =
        cellBlocks cells + (blockAt (some block) + mine) := by
      simp only [HeapRow.blocks, blockAt_some]
      abel
    rw [held, Heap.freeRow, if_neg (by omega), List.take_of_length_le (by omega)]
    apply (holds_freeCells cells _).bind
    rintro _ _ rfl
    exact holds_free _

theorem holds_freeRows {n : Nat} {rows : List HeapRow} (whole : ∀ row ∈ rows, row.Whole n)
    (mine : Multiset Address) :
    Holds (fun _ mine' => mine' = mine) (Heap.freeRows n rows)
      ((rows.map HeapRow.blocks).sum + mine) := by
  induction rows with
  | nil => exact zero_add mine
  | cons row rows ih =>
    rw [List.map_cons, List.sum_cons, add_assoc]
    apply (holds_freeRow (whole row List.mem_cons_self) _).bind
    rintro _ _ rfl
    exact ih fun row' there => whole row' (List.mem_cons_of_mem _ there)

theorem holds_appTableFree {t : HeapTable} (sound : t.Sound) (mine : Multiset Address) :
    Holds (fun t' mine' => t' = .zero ∧ mine' = mine) (Heap.appTableFree t) (t.blocks + mine) := by
  have held : t.blocks + mine =
      (t.visibleRows.map HeapRow.blocks).sum +
        (blockAt t.rowsBlock + (blockAt t.columnsBlock + mine)) := by
    unfold HeapTable.blocks
    abel
  rw [held]
  apply (holds_freeRows sound.whole _).bind
  rintro _ _ rfl
  apply (holds_free _).bind
  rintro _ _ rfl
  apply (holds_free _).bind
  rintro _ _ rfl
  exact ⟨rfl, rfl⟩

theorem holds_appTableInit (columns : List AppTableColumn) (mine : Multiset Address) :
    Holds (fun r mine' => r.2.Sound ∧ (r.1 ≠ 0 → r.2 = .zero) ∧ mine' = r.2.blocks + mine)
      (Heap.appTableInit .zero columns) mine := by
  unfold Heap.appTableInit
  split
  · exact ⟨HeapTable.sound_zero, fun _ => rfl, (zero_add mine).symm⟩
  · apply (holds_calloc _ _).bind
    rintro block _ rfl
    cases block with
    | none => exact ⟨HeapTable.sound_zero, fun _ => rfl, rfl⟩
    | some b =>
      have sound : HeapTable.Sound
          { HeapTable.zero with columns := columns, columnsBlock := some b } :=
        ⟨Nat.le_refl _, by simp [HeapTable.visibleRows, HeapTable.zero]⟩
      exact ⟨sound, fun no => absurd rfl no, rfl⟩

/-- The cells copied so far are freed when one cannot be copied. -/
theorem holds_copyCells {t : HeapTable} (block : Address) (done : List HeapCell)
    (cells : List (Option CString))
    (copied : ∀ cell ∈ done, cell.isSome = true) (mine : Multiset Address) :
    Holds (fun r mine' =>
        r.1 = -1 ∧ r.2 = t.setRow .null ∧ mine' = mine ∨
        r.1 = 0 ∧ ∃ copies, r.2 = (t.setRow (.cells block copies)).countRow ∧
          (HeapRow.cells block copies).Whole (done.length + cells.length) ∧
          mine' = (HeapRow.cells block copies).blocks + mine)
      (Heap.copyCells t block done cells) ((HeapRow.cells block done).blocks + mine) := by
  induction cells generalizing done with
  | nil => exact .inr ⟨rfl, done, rfl, ⟨rfl, copied⟩, rfl⟩
  | cons cell cells ih =>
    apply (holds_appTableStrdup cell _).bind
    rintro copy _ rfl
    cases copy with
    | none =>
      have held : blockAt (Option.map Prod.fst (none : HeapCell)) +
          ((HeapRow.cells block done).blocks + mine) =
          cellBlocks done + (blockAt (some block) + mine) := by
        simp only [HeapRow.blocks, blockAt_some, Option.map_none, blockAt_none]
        abel
      rw [held]
      apply (holds_freeCells done _).bind
      rintro _ _ rfl
      apply (holds_free _).bind
      rintro _ _ rfl
      exact .inl ⟨rfl, rfl, rfl⟩
    | some copy =>
      have held : blockAt (Option.map Prod.fst (some copy)) +
          ((HeapRow.cells block done).blocks + mine) =
          (HeapRow.cells block (done ++ [some copy])).blocks + mine := by
        simp only [HeapRow.blocks, cellBlocks, List.map_append, List.sum_append, List.map_cons,
          List.map_nil,
          List.sum_cons, List.sum_nil, add_zero]
        abel
      have length : done.length + (cell :: cells).length =
          (done ++ [some copy]).length + cells.length := by
        simp only [List.length_append, List.length_cons, List.length_nil]
        omega
      rw [held, length]
      apply ih
      intro cell' there
      rcases List.mem_append.1 there with earlier | last
      · exact copied cell' earlier
      · rw [List.mem_singleton.1 last]
        rfl

theorem holds_appTableAddRow {t : HeapTable} (sound : t.Sound)
    (cells : Option (List (Option CString))) (mine : Multiset Address) :
    Holds (fun r mine' => r.2.Sound ∧ mine' = r.2.blocks + mine) (Heap.appTableAddRow t cells)
      (t.blocks + mine) := by
  cases cells with
  | none => exact ⟨sound, rfl⟩
  | some cells =>
    have held : t.blocks + mine = blockAt t.rowsBlock +
        (blockAt t.columnsBlock + (t.visibleRows.map HeapRow.blocks).sum + mine) := by
      unfold HeapTable.blocks
      abel
    rw [held]
    apply (holds_reserve _ _ _ _ _).bind
    rintro reserved _ ⟨rfl, granted, kept⟩
    split
    · rename_i failed
      rw [kept failed]
      exact ⟨sound, held.symm⟩
    · rename_i zero
      obtain ⟨more, larger⟩ := granted (not_not.1 zero)
      have sound' : (t.withRows reserved.2.1 reserved.2.2).Sound := sound.withRows larger
      have held' : blockAt reserved.2.1 +
          (blockAt t.columnsBlock + (t.visibleRows.map HeapRow.blocks).sum + mine) =
          (t.withRows reserved.2.1 reserved.2.2).blocks + mine := by
        rw [HeapTable.blocks, HeapTable.withRows_visibleRows sound]
        simp only [HeapTable.withRows]
        abel
      rw [held']
      apply (holds_calloc _ _).bind
      rintro block _ rfl
      cases block with
      | none => exact ⟨sound'.setRow .null, by simp⟩
      | some b =>
        have room : (t.withRows reserved.2.1 reserved.2.2).rowCount <
            (t.withRows reserved.2.1 reserved.2.2).rows.length := by
          rw [HeapTable.withRows_length larger]
          exact more
        have empty : blockAt (some b) + ((t.withRows reserved.2.1 reserved.2.2).blocks + mine) =
            (HeapRow.cells b []).blocks + ((t.withRows reserved.2.1
              reserved.2.2).blocks + mine) := rfl
        rw [empty]
        apply (holds_copyCells b [] _ (by simp) _).mono
        rintro r mine' (⟨_, same, rfl⟩ | ⟨_, copies, same, whole, rfl⟩)
        · rw [same]
          exact ⟨sound'.setRow .null, by simp⟩
        · rw [same]
          simp only [List.length_nil, cellsRead_length, zero_add] at whole
          refine ⟨sound'.countRow room whole, ?_⟩
          rw [HeapTable.countRow_setRow_blocks _ room, add_assoc]

end BeastieBoy
