import BeastieBoy.TableBlocks

/-!
# The life of tables

Any calls of `app_table_init`, `app_table_add_row` and `app_table_free`, in any
order on any number of tables.
-/

namespace BeastieBoy

open CLib Interact Interact.Prog

/-! ## Without the addresses -/

def HeapRow.forget : HeapRow → RowSlot
  | .unset => .unset
  | .null => .null
  | .cells _ copies => .cells (copies.map (·.map Prod.snd))

def HeapTable.forget (t : HeapTable) : AppTableMemory :=
  ⟨t.columns, t.rows.map HeapRow.forget, t.rowCount⟩

theorem forget_setRow (t : HeapTable) (row : HeapRow) :
    (t.setRow row).forget = t.forget.setRow row.forget := by
  simp [HeapTable.forget, HeapTable.setRow, AppTableMemory.setRow, List.map_set]

theorem forget_withRows (t : HeapTable) (block : Option Address) (rowCapacity : Nat) :
    (t.withRows block rowCapacity).forget = t.forget.withCapacity rowCapacity := by
  simp [HeapTable.forget, HeapTable.withRows, AppTableMemory.withCapacity, HeapRow.forget]

theorem forgets_appTableStrdup (src : Option CString) :
    Forgets (fun copy copy' => copy.map Prod.snd = copy') (Heap.appTableStrdup src)
      (appTableStrdup src) := by
  apply Forgets.malloc
  intro block
  cases block with
  | none => exact .done rfl
  | some b => exact .done rfl

theorem forgets_freeCells {β : Type} {R : Unit → β → Prop} (cells : List HeapCell) {b : β}
    (h : R () b) :
    Forgets R (Heap.freeCells cells) (.done b) := by
  induction cells with
  | nil => exact .done h
  | cons cell cells ih => exact .free ih

theorem forgets_copyCells {t : HeapTable} (room : t.rowCount < t.rows.length) (block : Address)
    (done : List HeapCell) (cells : List (Option CString)) :
    Forgets (fun r r' => r.1 = r'.1 ∧ r.2.forget = r'.2) (Heap.copyCells t block done cells)
      (copyCellsInto (t.forget.setRow
        (.cells (done.map (·.map Prod.snd) ++ List.replicate cells.length none)))
        done.length cells) := by
  have room' : t.forget.rowCount < t.forget.rowCapacity := room.trans_eq (List.length_map _).symm
  induction cells generalizing done with
  | nil =>
    refine .done ⟨rfl, ?_⟩
    rw [List.length_nil, List.replicate_zero, List.append_nil]
    exact congrArg AppTableMemory.countRow (forget_setRow t (.cells block done))
  | cons cell cells ih =>
    apply (forgets_appTableStrdup cell).bind
    rintro copy _ rfl
    cases copy with
    | none =>
      have kept : t.forget.setRow .null = (t.setRow .null).forget := (forget_setRow t .null).symm
      rw [Option.map_none]
      simp only [AppTableMemory.setRow_setRow, kept]
      rw [← bind_done (pure (-1, (t.setRow .null).forget))]
      apply (forgets_freeCells (R := fun _ r' => r' = (-1, (t.setRow .null).forget)) done rfl).bind
      rintro _ _ rfl
      exact .free (.done ⟨rfl, rfl⟩)
    | some copy =>
      have rest := ih (done ++ [some copy])
      simp only [List.map_append, List.map_cons, List.map_nil, Option.map_some, List.length_append,
        List.length_cons, List.length_nil, zero_add] at rest
      have written :=
        @AppTableMemory.setCell_setRow t.forget
          (done.map (·.map Prod.snd)) cells.length copy.2 room'
      rw [List.length_map] at written
      simp only [List.length_cons, Option.map_some, written]
      exact rest

/-- `app_table_add_row` on the heap does what it does in the memory without
addresses. -/
theorem forgets_appTableAddRow (t : HeapTable) (cells : Option (List (Option CString))) :
    Forgets (fun r r' => r.1 = r'.1 ∧ r.2.forget = r'.2) (Heap.appTableAddRow t cells)
      (appTableAddRowInto t.forget cells) := by
  cases cells with
  | none => exact .done ⟨rfl, rfl⟩
  | some cells =>
    have capacity : t.forget.rowCapacity = t.rows.length := List.length_map _
    simp only [Heap.appTableAddRow, appTableAddRowInto, capacity]
    apply ((forgets_reserve _ _ _ _).with_only (quiet_reserve_room _ _ _)).bind
    rintro reserved reserved' ⟨⟨same, capacity'⟩, room⟩
    rw [← same] at room ⊢
    split
    · exact .done ⟨rfl, rfl⟩
    · rename_i zero
      obtain ⟨more, larger⟩ := room (not_not.1 zero)
      rw [← capacity'] at more larger
      rw [← capacity', ← forget_withRows t reserved.2.1]
      apply Forgets.calloc
      intro block
      cases block with
      | none => exact .done ⟨rfl, forget_setRow _ _⟩
      | some b =>
        have room' : (t.withRows reserved.2.1 reserved.2.2).rowCount <
            (t.withRows reserved.2.1 reserved.2.2).rows.length := by
          rw [HeapTable.withRows_length larger]
          exact more
        have copied := forgets_copyCells room' b [] (cellsRead t.columns.length cells)
        rw [cellsRead_length] at copied
        exact copied

/-! ## Any calls -/

inductive TableCall where
  | init (columns : List AppTableColumn)
  | addRow (i : Nat) (cells : Option (List (Option CString)))
  | free (i : Nat)

namespace Heap

/-- A new table is one of zeros, and the calls name tables by their number. -/
def tableCall (tables : List HeapTable) : TableCall → OnHeap (List HeapTable)
  | .init columns => do
    let made ← appTableInit .zero columns
    pure (tables ++ [made.2])
  | .addRow i cells =>
    match tables[i]? with
    | none => pure tables
    | some t => do
      let added ← appTableAddRow t cells
      pure (tables.set i added.2)
  | .free i =>
    match tables[i]? with
    | none => pure tables
    | some t => do
      let freed ← appTableFree t
      pure (tables.set i freed)

def tableCalls (tables : List HeapTable) : List TableCall → OnHeap (List HeapTable)
  | [] => pure tables
  | c :: calls => do
    let tables ← tableCall tables c
    tableCalls tables calls

end Heap

def heldBlocks (tables : List HeapTable) : Multiset Address := (tables.map HeapTable.blocks).sum

/-- A table in place of another. -/
theorem heldBlocks_set {tables : List HeapTable} {i : Nat} {t : HeapTable}
    (there : tables[i]? = some t)
    (t' : HeapTable) : heldBlocks (tables.set i t') + t.blocks = heldBlocks tables + t'.blocks := by
  induction tables generalizing i with
  | nil => cases there
  | cons head tables ih =>
    cases i with
    | zero =>
      obtain rfl : head = t := Option.some.inj there
      simp only [List.set_cons_zero, heldBlocks, List.map_cons, List.sum_cons]
      abel
    | succ i =>
      have rest := ih there
      simp only [heldBlocks] at rest
      simp only [List.set_cons_succ, heldBlocks, List.map_cons, List.sum_cons, add_assoc, rest]

/-- What the other tables hold. -/
theorem exists_heldBlocks {tables : List HeapTable} {i : Nat} {t : HeapTable}
    (there : tables[i]? = some t) :
    ∃ rest, heldBlocks tables = t.blocks + rest ∧
      ∀ t', heldBlocks (tables.set i t') = t'.blocks + rest := by
  have zeroed := heldBlocks_set there .zero
  rw [HeapTable.blocks_zero, add_zero] at zeroed
  refine ⟨heldBlocks (tables.set i .zero), zeroed.symm.trans (add_comm _ _), fun t' => ?_⟩
  apply add_right_cancel (b := t.blocks)
  rw [heldBlocks_set there t', ← zeroed]
  abel

def AllSound (tables : List HeapTable) : Prop := ∀ t ∈ tables, t.Sound

theorem AllSound.set {tables : List HeapTable} (h : AllSound tables) {t : HeapTable}
    (sound : t.Sound) (i : Nat) :
    AllSound (tables.set i t) := by
  intro t' there
  rcases List.mem_or_eq_of_mem_set there with old | rfl
  · exact h t' old
  · exact sound

/-- What is live behind a call is what the tables hold. -/
theorem holds_tableCall {tables : List HeapTable} (sound : AllSound tables) (c : TableCall)
    (mine : Multiset Address) :
    Holds (fun tables' mine' => AllSound tables' ∧ mine' = heldBlocks tables' + mine)
      (Heap.tableCall tables c) (heldBlocks tables + mine) := by
  cases c with
  | init columns =>
    apply (holds_appTableInit columns _).bind
    rintro made _ ⟨madeSound, _, rfl⟩
    refine ⟨?_, ?_⟩
    · intro t there
      rcases List.mem_append.1 there with old | new
      · exact sound t old
      · rw [List.mem_singleton.1 new]
        exact madeSound
    · simp only [heldBlocks, List.map_append, List.sum_append, List.map_cons, List.map_nil,
        List.sum_cons, List.sum_nil]
      abel
  | addRow i cells =>
    simp only [Heap.tableCall]
    split
    · exact ⟨sound, rfl⟩
    · rename_i t there
      obtain ⟨rest, now, held⟩ := exists_heldBlocks there
      rw [now, add_assoc]
      apply (holds_appTableAddRow (sound t (List.mem_of_getElem? there)) cells _).bind
      rintro added _ ⟨addedSound, rfl⟩
      exact ⟨sound.set addedSound i, by rw [held, add_assoc]⟩
  | free i =>
    simp only [Heap.tableCall]
    split
    · exact ⟨sound, rfl⟩
    · rename_i t there
      obtain ⟨rest, now, held⟩ := exists_heldBlocks there
      rw [now, add_assoc]
      apply (holds_appTableFree (sound t (List.mem_of_getElem? there)) _).bind
      rintro _ _ ⟨rfl, rfl⟩
      exact ⟨sound.set HeapTable.sound_zero i, by rw [held, HeapTable.blocks_zero, zero_add]⟩

theorem holds_tableCalls {tables : List HeapTable} (sound : AllSound tables)
    (calls : List TableCall) :
    Holds (fun tables' mine' => AllSound tables' ∧ mine' = heldBlocks tables')
      (Heap.tableCalls tables calls) (heldBlocks tables) := by
  induction calls generalizing tables with
  | nil => exact ⟨sound, rfl⟩
  | cons c calls ih =>
    have one := holds_tableCall sound c 0
    simp only [add_zero] at one
    apply one.bind
    rintro tables' _ ⟨sound', rfl⟩
    exact ih sound'

/-! ## To the end -/

def Heap.freeTables : List HeapTable → OnHeap Unit
  | [] => pure ()
  | t :: tables => do
    let _ ← Heap.appTableFree t
    Heap.freeTables tables

/-- Any calls, and every table freed at the end. -/
def Heap.tableLife (calls : List TableCall) : OnHeap Unit := do
  let tables ← Heap.tableCalls [] calls
  Heap.freeTables tables

theorem holds_freeTables {tables : List HeapTable} (sound : AllSound tables) :
    Holds (fun _ mine' => mine' = 0) (Heap.freeTables tables) (heldBlocks tables) := by
  induction tables with
  | nil => rfl
  | cons t tables ih =>
    apply (holds_appTableFree (sound t List.mem_cons_self) (heldBlocks tables)).bind
    rintro _ _ ⟨_, rfl⟩
    exact ih fun t' there => sound t' (List.mem_cons_of_mem _ there)

theorem allSound_nil : AllSound [] := by simp [AllSound]

theorem holds_tableLife (calls : List TableCall) :
    Holds (fun _ mine' => mine' = 0) (Heap.tableLife calls) 0 := by
  apply (holds_tableCalls allSound_nil calls).bind
  rintro tables _ ⟨sound, rfl⟩
  exact holds_freeTables sound

/-- **Tables and their blocks.** In any run of any calls, whatever else is live,
only own live blocks are given back, no block is live twice, the tables hold what
is live behind the calls, and nothing is left once they are freed. -/
theorem tables_keep_their_blocks (calls : List TableCall) {others : Multiset Address}
    (distinct : others.Nodup) :
    (∀ tr e live, Begins (Heap.tableLife calls) (tr ++ [e]) → Serves allocator others tr live →
      live.Nodup ∧ ∃ mine, live = mine + others ∧ e.call.Allowed mine) ∧
    (∀ tr tables live, Exec allocator (Heap.tableCalls [] calls) others tr live tables →
      AllSound tables ∧ live = heldBlocks tables + others) ∧
    ∀ tr live, Exec allocator (Heap.tableLife calls) others tr live () → live = others := by
  have whole := holds_tableLife calls
  have start : 0 + others = others := zero_add others
  refine ⟨fun tr e live run served => ?_, fun tr tables live run => ?_, fun tr live run => ?_⟩
  · rw [← start] at served distinct
    exact ⟨whole.nodup run.left served distinct, whole.allowed run served⟩
  · have held := run.serves
    rw [← start] at held
    obtain ⟨_, rfl, sound, rfl⟩ := (holds_tableCalls allSound_nil calls).ends run.follows held
    exact ⟨sound, rfl⟩
  · have held := run.serves
    rw [← start] at held
    obtain ⟨_, rfl, rfl⟩ := whole.ends run.follows held
    exact start

def sampleTableCalls : List TableCall :=
  [.init [⟨some "A".toList, 1, 0, true, .left⟩, ⟨some "B".toList, 1, 0, true, .left⟩],
    .addRow 0 (some [some "a".toList, some "b".toList]),
      .addRow 0 (some [some "c".toList, none]), .free 0,
    .addRow 0 (some [])]

/-- The second cell of the second row cannot be copied. -/
def sampleAllocator : CountingAllocator :=
  ⟨[7], 100, [false, false, false, false, false, false, false, true]⟩

theorem sample_tables_keep_their_blocks :
    ∃ tr live, Exec allocator (Heap.tableLife sampleTableCalls) {7} tr live () ∧ live = {7} := by
  have run : (play (CountingAllocator.answer fun _ => none) (Heap.tableLife sampleTableCalls)
      sampleAllocator).isSome := rfl
  have made := exec_get (CountingAllocator.allocator_answer _) run
  exact ⟨_, _, made, (tables_keep_their_blocks sampleTableCalls
    (Multiset.nodup_singleton 7)).2.2 _ _ made⟩

end BeastieBoy
