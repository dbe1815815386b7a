import BeastieBoy.SpanShow

/-!
# The memory of a table

`app_table_t` as it lies in memory: an array with room for more rows than the
table has, whose next entry a call that fails may have written already. The
visible rows are those in front of `row_count`, and they are the rows of the
table that `Represents` relates to the memory.
-/

namespace BeastieBoy

open CLib Interact Interact.Prog

/-- An `app_table_row_t`. -/
inductive RowSlot where
  /-- Not written since the array was allocated. -/
  | unset
  /-- `cells` is `NULL`. -/
  | null
  | cells (cells : List (Option CString))
  deriving DecidableEq

/-- `cells[i] = copy`. -/
def RowSlot.setCell (i : Nat) (copy : CString) : RowSlot → RowSlot
  | .cells array => .cells (array.set i (some copy))
  | slot => slot

/-- `rows` is the whole array. -/
structure AppTableMemory where
  columns : List AppTableColumn
  rows : List RowSlot
  rowCount : Nat
  deriving DecidableEq

namespace AppTableMemory

def rowCapacity (m : AppTableMemory) : Nat := m.rows.length

def visibleRows (m : AppTableMemory) : List RowSlot := m.rows.take m.rowCount

/-- What `realloc` leaves of the array. -/
def withCapacity (m : AppTableMemory) (rowCapacity : Nat) : AppTableMemory :=
  { m with rows := m.rows ++ List.replicate (rowCapacity - m.rows.length) .unset }

/-- The row behind the visible ones is written. -/
def setRow (m : AppTableMemory) (slot : RowSlot) : AppTableMemory :=
  { m with rows := m.rows.set m.rowCount slot }

def setCell (m : AppTableMemory) (i : Nat) (copy : CString) : AppTableMemory :=
  { m with rows := m.rows.modify m.rowCount (RowSlot.setCell i copy) }

def countRow (m : AppTableMemory) : AppTableMemory := { m with rowCount := m.rowCount + 1 }

end AppTableMemory

def appTableInitMemory (columns : List AppTableColumn) : Boy (Option AppTableMemory) :=
  if columns = [] then
    pure none
  else do
    let granted : Bool ← boyCall (.calloc columns.length sizeofAppTableColumn)
    if granted then pure (some ⟨columns, [], 0⟩) else pure none

/-- The `for` loop over the cells from `i` on, and what follows it. -/
def copyCellsInto (m : AppTableMemory) (i : Nat) :
    List (Option CString) → Boy (Int × AppTableMemory)
  | [] => pure (0, m.countRow)
  | cell :: cells => do
    match ← appTableStrdup cell with
    | none => pure (-1, m.setRow .null)
    | some copy => copyCellsInto (m.setCell i copy) (i + 1) cells

/-- The array of cells may itself be `NULL`. -/
def appTableAddRowInto (m : AppTableMemory) :
    Option (List (Option CString)) → Boy (Int × AppTableMemory)
  | none => pure (-1, m)
  | some cells => do
    let reserved ← appTableReserveRows m.rowCapacity (m.rowCount + 1)
    if reserved.1 ≠ 0 then
      pure (-1, m)
    else
      let m := m.withCapacity reserved.2
      let granted : Bool ← boyCall (.calloc m.columns.length sizeofCharPointer)
      if granted then
        copyCellsInto (m.setRow (.cells (List.replicate m.columns.length none))) 0
          (cellsRead m.columns.length cells)
      else
        pure (-1, m.setRow .null)

/-! ## Memory and table -/

/-- The table is what is visible in the memory. -/
structure Represents (m : AppTableMemory) (t : AppTable) : Prop where
  columns : m.columns = t.columns
  rowCount : m.rowCount = t.rows.length
  rowCapacity : m.rowCapacity = t.rowCapacity
  room : m.rowCount ≤ m.rowCapacity
  visible : m.visibleRows = t.rows.map .cells

namespace AppTableMemory

variable {m : AppTableMemory}

@[simp] theorem setRow_columns (slot : RowSlot) : (m.setRow slot).columns = m.columns := rfl

@[simp] theorem setRow_rowCount (slot : RowSlot) : (m.setRow slot).rowCount = m.rowCount := rfl

@[simp] theorem setRow_rowCapacity (slot : RowSlot) : (m.setRow slot).rowCapacity = m.rowCapacity :=
  List.length_set

/-- What is written behind the visible rows does not show. -/
@[simp] theorem setRow_visibleRows (slot : RowSlot) : (m.setRow slot).visibleRows = m.visibleRows :=
  List.take_set_of_le (Nat.le_refl _)

@[simp] theorem setRow_setRow (slot slot' : RowSlot) :
    (m.setRow slot).setRow slot' = m.setRow slot' := by
  simp [setRow]

theorem withCapacity_rowCapacity {rowCapacity : Nat} (larger : m.rowCapacity ≤ rowCapacity) :
    (m.withCapacity rowCapacity).rowCapacity = rowCapacity := by
  simp only [AppTableMemory.rowCapacity, withCapacity, List.length_append,
    List.length_replicate] at larger ⊢
  omega

theorem withCapacity_visibleRows {rowCapacity : Nat} (room : m.rowCount ≤ m.rowCapacity) :
    (m.withCapacity rowCapacity).visibleRows = m.visibleRows :=
  List.take_append_of_le_length room

/-- A row that is counted becomes the last visible one. -/
theorem countRow_setRow_visibleRows (slot : RowSlot) (room : m.rowCount < m.rowCapacity) :
    (m.setRow slot).countRow.visibleRows = m.visibleRows ++ [slot] := by
  have last : m.rowCount < (m.rows.set m.rowCount slot).length := by rwa [List.length_set]
  simp only [visibleRows, countRow, setRow]
  rw [List.take_succ_eq_append_getElem last, List.take_set_of_le (Nat.le_refl _),
    List.getElem_set_self]

/-- A cell written into a row behind the visible ones. -/
theorem setCell_setRow {done : List (Option CString)} {n : Nat} (copy : CString)
    (room : m.rowCount < m.rowCapacity) :
    (m.setRow (.cells (done ++ List.replicate (n + 1) none))).setCell done.length copy =
      m.setRow (.cells (done ++ [some copy] ++ List.replicate n none)) := by
  have written : (done ++ List.replicate (n + 1) none).set done.length (some copy) =
      done ++ [some copy] ++ List.replicate n none := by
    rw [List.set_append_right _ _ (Nat.le_refl _), Nat.sub_self, List.append_assoc]
    rfl
  simp only [setRow, setCell, AppTableMemory.mk.injEq, true_and, and_true]
  rw [List.modify_eq_set_getElem? , List.getElem?_set_self room]
  simp [RowSlot.setCell, written]

end AppTableMemory

/-! ## A row more -/

theorem doubleUntil_le {requiredCount turns newCapacity n : Nat}
    (h : doubleUntil requiredCount turns newCapacity = some n) : requiredCount ≤ n := by
  induction turns generalizing newCapacity with
  | zero => cases h
  | succ turns ih =>
    rw [doubleUntil] at h
    split at h
    · exact ih h
    · rename_i enough
      rw [← Option.some.inj h]
      exact Nat.le_of_not_lt enough

/-- Room that was reserved is there. -/
theorem quiet_reserve_room (capacity itemSize requiredCount : Nat) :
    Quiet (fun r => r.1 = 0 → requiredCount ≤ r.2 ∧ capacity ≤ r.2)
      (reserve capacity itemSize requiredCount) := by
  unfold reserve
  split
  · rename_i enough
    exact fun _ => ⟨enough, Nat.le_refl _⟩
  · rename_i short
    split
    · exact quiet_stuck
    · rename_i newCapacity doubled
      apply (quiet_call rfl).bind
      intro granted _
      split
      · have larger := doubleUntil_le doubled
        exact fun _ => ⟨larger, by omega⟩
      · intro zero
        cases zero

theorem cellsRead_length (n : Nat) (cells : List (Option CString)) :
    (cellsRead n cells).length = n := by
  simp [cellsRead]

/-- The loop keeps the copies made so far in front of `NULL`s. -/
theorem simulates_copyCells {m : AppTableMemory} (room : m.rowCount < m.rowCapacity)
    (done cells : List (Option CString)) :
    Simulates (fun r o => match o with
        | none => r = (-1, m.setRow .null)
        | some copies => r = (0, (m.setRow (.cells (done ++ copies))).countRow))
      (copyCellsInto (m.setRow (.cells (done ++ List.replicate cells.length none)))
        done.length cells)
      (appTableCopyCells cells) := by
  induction cells generalizing done with
  | nil => exact .done rfl
  | cons cell cells ih =>
    apply Simulates.bind (Simulates.refl (appTableStrdup cell))
    rintro o _ rfl
    cases o with
    | none => exact .done (by simp)
    | some copy =>
      have rest := ih (done ++ [some copy])
      rw [List.length_append, List.length_singleton] at rest
      simp only [List.length_cons, AppTableMemory.setCell_setRow copy room]
      rw [← bind_done (copyCellsInto _ _ _)]
      apply rest.bind
      intro r o ho
      cases o with
      | none => exact .done ho
      | some copies => exact .done (by rw [ho, List.append_assoc]; rfl)

theorem represents_failed {m : AppTableMemory} {t : AppTable} (h : Represents m t) (slot : RowSlot)
    {rowCapacity : Nat} (larger : m.rowCapacity ≤ rowCapacity) :
    Represents ((m.withCapacity rowCapacity).setRow slot) (t.withCapacity rowCapacity) where
  columns := h.columns
  rowCount := h.rowCount
  rowCapacity := by
    rw [AppTableMemory.setRow_rowCapacity, AppTableMemory.withCapacity_rowCapacity larger]
    rfl
  room := by
    rw [AppTableMemory.setRow_rowCapacity, AppTableMemory.withCapacity_rowCapacity larger]
    exact Nat.le_trans h.room larger
  visible := by
    rw [AppTableMemory.setRow_visibleRows, AppTableMemory.withCapacity_visibleRows h.room]
    exact h.visible

theorem represents_added {m : AppTableMemory} {t : AppTable} (h : Represents m t)
    {copies : List (Option CString)} (whole : cellsRead t.columns.length copies = copies)
    {rowCapacity : Nat} (larger : m.rowCapacity ≤ rowCapacity) (room : m.rowCount < rowCapacity) :
    Represents ((m.withCapacity rowCapacity).setRow (.cells copies)).countRow
      (t.addRow rowCapacity copies) where
  columns := h.columns
  rowCount := by
    have counted := h.rowCount
    simp [AppTableMemory.countRow, AppTable.addRow, AppTableMemory.withCapacity, counted]
  rowCapacity := by
    have same := AppTableMemory.withCapacity_rowCapacity larger
    rwa [← AppTableMemory.setRow_rowCapacity (.cells copies)] at same
  room := by
    have same := AppTableMemory.withCapacity_rowCapacity larger
    rw [← AppTableMemory.setRow_rowCapacity (.cells copies)] at same
    exact same.symm ▸ room
  visible := by
    rw [AppTableMemory.countRow_setRow_visibleRows, AppTableMemory.withCapacity_visibleRows h.room,
      h.visible]
    · simp [AppTable.addRow, whole]
    · rwa [AppTableMemory.withCapacity_rowCapacity larger]

/-- The call on the memory does what it does on the table. -/
theorem simulates_appTableAddRow {m : AppTableMemory} {t : AppTable} (h : Represents m t)
    (cells : List (Option CString)) :
    Simulates (fun r r' => r.1 = r'.1 ∧ Represents r.2 r'.2) (appTableAddRowInto m (some cells))
      (appTableAddRow t cells) := by
  obtain ⟨columns, rows, rowCapacity, lengths⟩ := t
  obtain rfl : m.columns = columns := h.columns
  obtain rfl : m.rowCapacity = rowCapacity := h.rowCapacity
  simp only [appTableAddRowInto, appTableAddRow, ← h.rowCount]
  apply ((Simulates.refl _).with_only (quiet_reserve_room _ _ _)).bind
  rintro reserved _ ⟨rfl, hroom⟩
  split
  · exact .done ⟨rfl, h⟩
  · rename_i zero
    obtain ⟨more, larger⟩ := hroom (not_not.1 zero)
    have asked : Simulates Eq (boyCall (.calloc m.columns.length sizeofCharPointer)) _ := .refl _
    apply asked.bind
    rintro granted _ rfl
    split
    · have roomy : (m.withCapacity reserved.2).rowCount <
          (m.withCapacity reserved.2).rowCapacity := by
        rw [AppTableMemory.withCapacity_rowCapacity larger]
        exact more
      have copied := simulates_copyCells roomy [] (cellsRead m.columns.length cells)
      simp only [cellsRead_length, List.nil_append, List.length_nil] at copied
      rw [← bind_done (copyCellsInto _ _ _)]
      apply (copied.with_only (quiet_appTableCopyCells _)).bind
      rintro r o ⟨hr, ho⟩
      cases o with
      | none => exact .done (hr ▸ ⟨rfl, represents_failed h .null larger⟩)
      | some copies =>
        have whole : cellsRead m.columns.length copies = copies := by
          apply cellsRead_of_length
          rw [ho copies rfl, List.length_map, cellsRead_length]
        exact .done (hr ▸ ⟨rfl, represents_added h whole larger more⟩)
    · exact .done ⟨rfl, represents_failed h .null larger⟩

/-! ## A call more -/

/-- Some run ends as `R` says. -/
abbrev MayEnd {α : Type} (R : α → Prop) (p : Boy α) : Prop := ∃ tr a, Follows p tr a ∧ R a

theorem MayEnd.bind {α β : Type} {R : α → Prop} {T : β → Prop} {p : Boy α} {f : α → Boy β}
    (h : MayEnd R p) (hf : ∀ a, R a → MayEnd T (f a)) : MayEnd T (p >>= f) := by
  obtain ⟨t₁, a, run, ha⟩ := h
  obtain ⟨t₂, b, run', hb⟩ := hf a ha
  exact ⟨_, b, follows_bind_iff.2 ⟨t₁, a, t₂, rfl, run, run'⟩, hb⟩

theorem mayEnd_pure {α : Type} {R : α → Prop} {a : α} (h : R a) : MayEnd R (pure a : Boy α) :=
  ⟨[], a, .done a, h⟩

theorem mayEnd_call {c : BoyCall} (r : BoyReply c) : MayEnd (· = r) (boyCall c) :=
  ⟨_, r, .call (.done r), rfl⟩

theorem mayEnd_copyCells (cells : List (Option CString)) :
    MayEnd (·.isSome = true) (appTableCopyCells cells) := by
  induction cells with
  | nil => exact mayEnd_pure rfl
  | cons cell cells ih =>
    have copied : MayEnd (· = some (orEmpty cell)) (appTableStrdup cell) := by
      apply (mayEnd_call (true : Bool)).bind
      rintro granted rfl
      exact mayEnd_pure rfl
    apply copied.bind
    rintro o rfl
    apply ih.bind
    intro o ho
    cases o with
    | none => cases ho
    | some copies => exact mayEnd_pure rfl

/-- Room that could be looked for once can be had the next time. -/
theorem mayEnd_reserve {capacity itemSize requiredCount : Nat} {tr : List BoyEvent} {r : Int × Nat}
    (run : Follows (reserve capacity itemSize requiredCount) tr r) :
    MayEnd (·.1 = 0) (reserve capacity itemSize requiredCount) := by
  unfold reserve at run ⊢
  split
  · exact mayEnd_pure rfl
  · rename_i short
    rw [if_neg short] at run
    split at run
    · obtain ⟨never, _⟩ := follows_call_iff.1 run
      cases never
    · apply (mayEnd_call (true : Bool)).bind
      rintro granted rfl
      exact mayEnd_pure rfl

theorem mayEnd_addRow {t : AppTable} (cells : List (Option CString))
    (room : MayEnd (·.1 = 0) (appTableReserveRows t.rowCapacity (t.rows.length + 1))) :
    MayEnd (·.1 = 0) (appTableAddRow t cells) := by
  apply room.bind
  intro reserved zero
  rw [if_neg (not_not.2 zero)]
  apply (mayEnd_call (true : Bool)).bind
  rintro granted rfl
  apply (mayEnd_copyCells _).bind
  intro o ho
  cases o with
  | none => cases ho
  | some copies => exact mayEnd_pure rfl

/-- Behind a call that failed, a call can succeed. -/
theorem mayEnd_addRow_again {t t' : AppTable} {cells : List (Option CString)} {tr : List BoyEvent}
    (run : Follows (appTableAddRow t cells) tr (-1, t')) (cells' : List (Option CString)) :
    MayEnd (·.1 = 0) (appTableAddRow t' cells') := by
  apply mayEnd_addRow
  unfold appTableAddRow at run
  obtain ⟨t₁, reserved, t₂, rfl, reserving, rest⟩ := follows_bind_iff.1 run
  have room := (reserving.of_only (quiet_reserve_room _ _ _)).2
  by_cases zero : reserved.1 = 0
  · rw [if_neg (not_not.2 zero)] at rest
    have enough (rowCapacity : Nat) (h : t.rows.length + 1 ≤ rowCapacity) :
        MayEnd (·.1 = 0) (appTableReserveRows rowCapacity (t.rows.length + 1)) := by
      unfold appTableReserveRows reserve
      rw [if_pos h]
      exact mayEnd_pure rfl
    obtain ⟨granted, t₃, rfl, copying⟩ := follows_call_bind rest
    split at copying
    · obtain ⟨t₄, o, t₅, rfl, _, ending⟩ := follows_bind_iff.1 copying
      cases o with
      | none =>
        obtain ⟨_, same⟩ := follows_done_iff.1 ending
        cases same
        exact enough _ (room zero).1
      | some copies =>
        obtain ⟨_, same⟩ := follows_done_iff.1 ending
        cases same
    · obtain ⟨_, same⟩ := follows_done_iff.1 copying
      cases same
      exact enough _ (room zero).1
  · rw [if_pos zero] at rest
    obtain ⟨_, same⟩ := follows_done_iff.1 rest
    cases same
    exact mayEnd_reserve reserving

/-! ## A history of calls -/

/-- A call of `app_table_add_row`: what it was given, and what it returned. -/
abbrev AddRowCall := Option (List (Option CString)) × Int

/-- `m` is the memory behind these calls, the first of them on a new table. -/
inductive Filling (columns : List AppTableColumn) : List AddRowCall → AppTableMemory → Prop
  | init {tr : List BoyEvent} {m : AppTableMemory}
      (run : Follows (appTableInitMemory columns) tr (some m)) : Filling columns [] m
  | add {calls : List AddRowCall} {m m' : AppTableMemory} {cells : Option (List (Option CString))}
      {tr : List BoyEvent} {rc : Int} (before : Filling columns calls m)
      (run : Follows (appTableAddRowInto m cells) tr (rc, m')) :
      Filling columns (calls ++ [(cells, rc)]) m'

/-- The row of a call that returned 0: `columnCount` cells, empty for `NULL`. -/
def AddRowCall.row (columnCount : Nat) : AddRowCall → Option RowSlot
  | (some cells, 0) => some
      (.cells ((cellsRead columnCount cells).map fun cell => some (orEmpty cell)))
  | _ => none

theorem represents_init {columns : List AppTableColumn} {tr : List BoyEvent} {m : AppTableMemory}
    (run : Follows (appTableInitMemory columns) tr (some m)) :
    Represents m ⟨columns, [], 0, by simp⟩ := by
  unfold appTableInitMemory at run
  split at run
  · cases (follows_done_iff.1 run).2
  · obtain ⟨granted, t, rfl, rest⟩ := follows_call_bind run
    split at rest
    · cases (follows_done_iff.1 rest).2
      exact ⟨rfl, rfl, rfl, Nat.le_refl _, rfl⟩
    · cases (follows_done_iff.1 rest).2

/-- What one call does to a memory that represents a table. -/
theorem follows_appTableAddRowInto {m m' : AppTableMemory} {t : AppTable} (h : Represents m t)
    {cells : List (Option CString)} {tr : List BoyEvent} {rc : Int}
    (run : Follows (appTableAddRowInto m (some cells)) tr (rc, m')) :
    ∃ t', Represents m' t' ∧ Follows (appTableAddRow t cells) tr (rc, t') ∧
      (rc = 0 ∧ t'.Extends t
        [(cellsRead t.columns.length cells).map fun cell => some (orEmpty cell)] ∨
        rc = -1 ∧ t'.Extends t []) := by
  obtain ⟨⟨rc', t'⟩, run', rfl, represents⟩ := (simulates_appTableAddRow h cells).follows run
  exact ⟨t', represents, run', (run'.of_only (quiet_appTableAddRow t cells)).2⟩

/-- The memory behind a history represents a table of the rows accepted in it. -/
theorem Filling.represents {columns : List AppTableColumn} {calls : List AddRowCall}
    {m : AppTableMemory} (h : Filling columns calls m) : ∃ t, Represents m t ∧ t.columns = columns ∧
      t.rows.map RowSlot.cells = calls.filterMap (AddRowCall.row columns.length) := by
  induction h with
  | init run => exact ⟨_, represents_init run, rfl, rfl⟩
  | @add calls m m' cells tr rc before run ih =>
    obtain ⟨t, represents, rfl, rows⟩ := ih
    rw [List.filterMap_append, ← rows]
    cases cells with
    | none =>
      obtain ⟨_, same⟩ := follows_done_iff.1 run
      cases same
      exact ⟨t, represents, rfl, by simp [AddRowCall.row]⟩
    | some cells =>
      obtain ⟨t', represents', _, ⟨rfl, columns, rows'⟩ | ⟨rfl, columns, rows'⟩⟩ :=
        follows_appTableAddRowInto represents run
      · exact ⟨t', represents', columns, by simp [rows', AddRowCall.row]⟩
      · exact ⟨t', represents', columns, by simp [rows', AddRowCall.row]⟩

/-- **Only accepted rows show.** Whatever allocations failed: the rows in front
of `row_count` are those of the calls that returned 0, a call that fails changes
none of them, and the next call can succeed. -/
theorem rows_accepted {columns : List AppTableColumn} {calls : List AddRowCall} {m : AppTableMemory}
    (h : Filling columns calls m) :
    m.rowCount ≤ m.rowCapacity ∧ m.columns = columns ∧
      m.visibleRows = calls.filterMap (AddRowCall.row columns.length) ∧
      m.visibleRows.length = m.rowCount ∧
      ∀ cells tr rc m', Follows (appTableAddRowInto m cells) tr (rc, m') →
        (rc = 0 ∨ rc = -1) ∧
        (rc = -1 → m'.rowCount = m.rowCount ∧ m'.visibleRows = m.visibleRows ∧
          m'.columns = m.columns ∧
          (cells = none ∧ m' = m ∨
            ∀ cells', ∃ tr' m'', Follows (appTableAddRowInto m' (some cells')) tr' (0, m''))) := by
  obtain ⟨t, represents, columns, rows⟩ := h.represents
  have shown : m.visibleRows.length = m.rowCount := by
    rw [represents.visible, List.length_map, represents.rowCount]
  refine ⟨represents.room, represents.columns.trans columns, represents.visible.trans rows,
    shown, ?_⟩
  intro cells tr rc m' run
  cases cells with
  | none =>
    obtain ⟨_, same⟩ := follows_done_iff.1 run
    cases same
    exact ⟨.inr rfl, fun _ => ⟨rfl, rfl, rfl, .inl ⟨rfl, rfl⟩⟩⟩
  | some cells =>
    obtain ⟨t', represents', run', ⟨rfl, _⟩ | ⟨rfl, columns', rows'⟩⟩ :=
      follows_appTableAddRowInto represents run
    · exact ⟨.inl rfl, fun no => by cases no⟩
    · rw [List.append_nil] at rows'
      refine ⟨.inr rfl, fun _ => ⟨?_, ?_, ?_, .inr fun cells' => ?_⟩⟩
      · rw [represents'.rowCount, represents.rowCount, rows']
      · rw [represents'.visible, represents.visible, rows']
      · rw [represents'.columns, represents.columns, columns']
      · obtain ⟨tr', ⟨rc, t''⟩, again, rfl⟩ := mayEnd_addRow_again run' cells'
        obtain ⟨⟨_, m''⟩, run'', rfl, _⟩ :=
          (simulates_appTableAddRow represents' cells').followed again
        exact ⟨tr', m'', run''⟩

def twoColumns : List AppTableColumn :=
  [⟨some "A".toList, 1, 0, false, .left⟩, ⟨some "B".toList, 1, 0, false, .right⟩]

/-- The second of three calls finds no memory for its second cell. -/
def interruptedCalls : List AddRowCall :=
  [(some [some "a".toList, none], 0), (some [some "b".toList, some "c".toList], -1),
    (some [none, some "d".toList], 0)]

def twoSlots (slot slot' : RowSlot) (rowCount : Nat) : AppTableMemory :=
  ⟨twoColumns, slot :: slot' :: List.replicate 6 .unset, rowCount⟩

theorem answered {α : Type} {c : BoyCall} {next : BoyReply c → Boy α} {a : α} (r : BoyReply c)
    (rest : ∃ tr, Follows (next r) tr a) : ∃ tr, Follows (.call c next) tr a := by
  obtain ⟨tr, run⟩ := rest
  exact ⟨_, .call run⟩

theorem interrupted_filling : Filling twoColumns interruptedCalls
    (twoSlots (.cells [some "a".toList, some []]) (.cells [some [], some "d".toList]) 2) := by
  obtain ⟨_, init⟩ : ∃ tr, Follows (appTableInitMemory twoColumns) tr
      (some ⟨twoColumns, [], 0⟩) := by
    apply answered (true : Bool)
    exact ⟨_, .done _⟩
  obtain ⟨_, first⟩ : ∃ tr,
      Follows (appTableAddRowInto ⟨twoColumns, [], 0⟩ (some [some "a".toList, none])) tr
        (0, twoSlots (.cells [some "a".toList, some []]) .unset 1) := by
    iterate 4 apply answered (true : Bool)
    exact ⟨_, .done _⟩
  obtain ⟨_, second⟩ : ∃ tr,
      Follows (appTableAddRowInto (twoSlots (.cells [some "a".toList, some []]) .unset 1)
        (some [some "b".toList, some "c".toList])) tr
        (-1, twoSlots (.cells [some "a".toList, some []]) .null 1) := by
    iterate 2 apply answered (true : Bool)
    apply answered (false : Bool)
    exact ⟨_, .done _⟩
  obtain ⟨_, third⟩ : ∃ tr,
      Follows (appTableAddRowInto (twoSlots (.cells [some "a".toList, some []]) .null 1)
        (some [none, some "d".toList])) tr
        (0, twoSlots (.cells [some "a".toList, some []])
          (.cells [some [], some "d".toList]) 2) := by
    iterate 3 apply answered (true : Bool)
    exact ⟨_, .done _⟩
  exact .add (.add (.add (.init init) first) second) third

theorem interruption_survived : ∃ m, Filling twoColumns interruptedCalls m ∧
    m.visibleRows = [.cells [some "a".toList, some []], .cells [some [], some "d".toList]] :=
  ⟨_, interrupted_filling, (rows_accepted interrupted_filling).2.2.1⟩

end BeastieBoy
