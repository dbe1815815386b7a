import BeastieBoy.AnsweringVpp
import BeastieBoy.CommandLife
import BeastieBoy.TableLife

/-!
# `boy` and its memory

The process on the heap is the process of the commands, which knows only whether
there was memory: it makes the same calls with the same answers, and beside them
it frees every block that it was given.
-/

namespace BeastieBoy

open CLib Interact Interact.Prog

theorem forgets_onHeap {α : Type} (p : Boy α) : Forgets Eq (Heap.onHeap p) p := by
  induction p with
  | done a => exact .done rfl
  | call c next ih =>
    cases c
    case malloc => exact .malloc fun block => ih _
    case calloc => exact .calloc fun block => ih _
    case realloc => exact .realloc fun block => ih _
    all_goals exact .own fun r => ih r

/-- Something that only the process on the heap does. -/
theorem Forgets.behind {α γ δ : Type} {T : γ → δ → Prop} {p : OnHeap α} {f : α → OnHeap γ}
    {q : Boy δ} (h : Forgets (fun _ _ => True) p (.done ())) (hf : ∀ a, Forgets T (f a) q) :
    Forgets T (p >>= f) q :=
  Forgets.bind (g := fun _ => q) h fun a _ _ => hf a

/-! ## The collectors -/

def HeapEntries.forget {Entry : Type} (table : HeapEntries Entry) : BoyTable Entry :=
  ⟨table.entries, table.capacity⟩

section Collectors
variable {Details Entry : Type}

theorem forgets_boyDumpCb (itemSize : Nat) (entry : Details → Entry) (table : HeapEntries Entry)
    (cb : DumpCallback Details) :
    Forgets (fun r r' => r.1 = r'.1 ∧ r.2.forget = r'.2) (Heap.boyDumpCb itemSize entry table cb)
      (boyDumpCb itemSize entry table.forget cb) := by
  obtain ⟨rv, isLast, reply⟩ := cb
  unfold Heap.boyDumpCb boyDumpCb
  split
  · exact .done ⟨rfl, rfl⟩
  · cases isLast with
    | true => exact .done ⟨rfl, rfl⟩
    | false =>
      cases reply with
      | none => exact .done ⟨rfl, rfl⟩
      | some reply =>
        apply (forgets_reserve _ _ _ _).bind
        rintro reserved reserved' ⟨same, capacity⟩
        rw [← same]
        split
        · exact .done ⟨rfl, rfl⟩
        · refine .done ⟨rfl, ?_⟩
          rw [← capacity]
          rfl

theorem forgets_runDumpCallbacks (itemSize : Nat) (entry : Details → Entry)
    (cbs : List (DumpCallback Details)) (table : HeapEntries Entry) :
    Forgets (fun r r' => r.1 = r'.1 ∧ r.2.forget = r'.2)
      (Heap.runDumpCallbacks (Heap.boyDumpCb itemSize entry) cbs table)
      (runDumpCallbacks (boyDumpCb itemSize entry) cbs table.forget) := by
  induction cbs generalizing table with
  | nil => exact .done ⟨rfl, rfl⟩
  | cons cb cbs ih =>
    apply (forgets_boyDumpCb _ _ _ _).bind
    rintro ⟨err, result⟩ ⟨_, _⟩ ⟨rfl, rfl⟩
    simp only
    split
    · exact .done ⟨rfl, rfl⟩
    · exact ih result

theorem forgets_boyCollect (message : String) (send : Boy (VapiDump Details)) (itemSize : Nat)
    (entry : Details → Entry) (table : HeapEntries Entry) :
    Forgets (fun r r' => r.1 = r'.1 ∧ r.2.forget = r'.2)
      (Heap.boyCollect message send (Heap.boyDumpCb itemSize entry) table)
      (boyCollect message send (boyDumpCb itemSize entry) table.forget) := by
  apply (forgets_onHeap _).bind
  rintro allocated _ rfl
  split
  · apply (forgets_onHeap _).bind
    rintro dump _ rfl
    apply (forgets_runDumpCallbacks _ _ _ _).bind
    rintro ⟨err, result⟩ ⟨_, _⟩ ⟨rfl, rfl⟩
    generalize (if err ≠ .ok then err else dump.err) = err
    simp only
    split
    · apply (forgets_onHeap _).bind
      rintro _ _ rfl
      exact .done ⟨rfl, rfl⟩
    · exact .done ⟨rfl, rfl⟩
  · apply (forgets_onHeap _).bind
    rintro _ _ rfl
    exact .done ⟨rfl, rfl⟩

theorem forgets_boyFreeTable (table : HeapEntries Entry) :
    Forgets (fun _ _ => True) (Heap.boyFreeTable table) (.done ()) := .free (.done trivial)

end Collectors

/-! ## A table in memory -/

section Tables
variable {t : HeapTable} {t' : AppTable}

/-- Every visible row is an array of cells. -/
theorem row_of_represents (h : Represents t.forget t') {row : HeapRow}
    (visible : row ∈ t.visibleRows) :
    ∃ block copies, row = .cells block copies ∧ copies.length = t.columns.length := by
  have shown : t.visibleRows.map HeapRow.forget = t'.rows.map .cells :=
    (List.map_take ..).trans h.visible
  have there : row.forget ∈ t'.rows.map RowSlot.cells := shown ▸ List.mem_map_of_mem visible
  obtain ⟨cells, mem, same⟩ := List.mem_map.1 there
  cases row with
  | unset => cases same
  | null => cases same
  | cells block copies =>
    refine ⟨block, copies, rfl, ?_⟩
    obtain rfl : cells = copies.map (·.map Prod.snd) := RowSlot.cells.inj same
    have length := t'.cells_length _ mem
    rw [List.length_map, ← h.columns] at length
    exact length

theorem shown_of_represents (h : Represents t.forget t') : t.shown = some t' := by
  have shown : t.visibleRows.map HeapRow.forget = t'.rows.map .cells :=
    (List.map_take ..).trans h.visible
  have texts (row : HeapRow) (visible : row ∈ t.visibleRows) :
      RowSlot.cells row.texts = row.forget := by
    obtain ⟨block, copies, rfl, _⟩ := row_of_represents h visible
    rfl
  have rows : t.visibleRows.map HeapRow.texts = t'.rows := by
    apply List.map_injective_iff.2 @RowSlot.cells.inj
    rw [← shown, List.map_map]
    exact List.map_congr_left texts
  have columns : t.columns = t'.columns := h.columns
  have whole : ∀ cells ∈ t.visibleRows.map HeapRow.texts, cells.length = t.columns.length := by
    rw [rows, columns]
    exact t'.cells_length
  have capacity : t.rows.length = t'.rowCapacity := (List.length_map _).symm.trans h.rowCapacity
  rw [HeapTable.shown, dif_pos whole]
  obtain ⟨columns', rows', rowCapacity, lengths⟩ := t'
  simp only [Option.some.injEq, AppTable.mk.injEq]
  exact ⟨columns, rows, capacity⟩

theorem forgets_appTableFree (h : Represents t.forget t') :
    Forgets (fun freed _ => freed = .zero) (Heap.appTableFree t) (.done ()) := by
  have rows (rows : List HeapRow) (whole : ∀ row ∈ rows, row ∈ t.visibleRows) :
      Forgets (fun _ _ => True) (Heap.freeRows t.columns.length rows) (.done ()) := by
    induction rows with
    | nil => exact .done trivial
    | cons row rows ih =>
      obtain ⟨block, copies, rfl, length⟩ := row_of_represents h (whole row List.mem_cons_self)
      have freed : Forgets (fun _ _ => True) (Heap.freeRow t.columns.length (.cells block copies))
          (.done ()) := by
        rw [Heap.freeRow, if_neg (by omega)]
        exact (forgets_freeCells (R := fun _ _ => True) _ trivial).behind fun _ =>
          .free (.done trivial)
      exact freed.behind fun _ => ih fun row' there => whole row' (List.mem_cons_of_mem _ there)
  apply (rows t.visibleRows fun _ there => there).behind
  intro _
  exact .free (.free (.done rfl))

end Tables

/-! ## Parts of a command -/

/-- The table can be freed: there is a table in it. -/
def BoyLocals.Readable (s : BoyLocals) : Prop := ∃ t, Represents s.table.forget t

theorem readable_zero : BoyLocals.zero.Readable :=
  ⟨⟨[], [], 0, by simp⟩, rfl, rfl, rfl, Nat.le_refl _, rfl⟩

/-- Both parts are given up, or both go on as `R` says. -/
def ForgetsFrom {α β : Type} (R : α → BoyLocals → β → Prop) (m : HeapAttempt α) (s : BoyLocals)
    (q : Attempt β) : Prop :=
  Forgets (fun r o => r.2.Readable ∧
    (r.1 = none ∧ o = none ∨ ∃ a b, r.1 = some a ∧ o = some b ∧ R a r.2 b))
    (m.run s) q.run

section Parts
variable {α β γ δ : Type} {R : α → BoyLocals → β → Prop} {T : γ → BoyLocals → δ → Prop}
    {s : BoyLocals}

theorem forgetsFrom_pure {a : α} {b : β} (readable : s.Readable) (h : R a s b) :
    ForgetsFrom R (pure a) s (pure b) := .done ⟨readable, .inr ⟨a, b, rfl, rfl, h⟩⟩

theorem ForgetsFrom.bind {m : HeapAttempt α} {q : Attempt β} {f : α → HeapAttempt γ}
    {g : β → Attempt δ}
    (h : ForgetsFrom R m s q)
    (hf : ∀ a s' b, s'.Readable → R a s' b → ForgetsFrom T (f a) s' (g b)) :
    ForgetsFrom T (m >>= f) s (q >>= g) := by
  apply Forgets.bind h
  rintro ⟨o, s'⟩ o' ⟨readable, ⟨rfl, rfl⟩ | ⟨a, b, rfl, rfl, h⟩⟩
  · exact .done ⟨readable, .inl ⟨rfl, rfl⟩⟩
  · exact hf a s' b readable h

theorem ForgetsFrom.mono {R' : α → BoyLocals → β → Prop} {m : HeapAttempt α} {q : Attempt β}
    (h : ForgetsFrom R m s q) (weaker : ∀ a s' b, R a s' b → R' a s' b) : ForgetsFrom R' m s q := by
  apply Forgets.mono h
  rintro r o ⟨readable, gaveUp | ⟨a, b, there, there', h⟩⟩
  · exact ⟨readable, .inl gaveUp⟩
  · exact ⟨readable, .inr ⟨a, b, there, there', weaker _ _ _ h⟩⟩

theorem forgetsFrom_locals {f : BoyLocals → HeapAttempt γ} {q : Attempt δ}
    (h : ForgetsFrom T (f s) s q) :
    ForgetsFrom T (Heap.locals >>= f) s q := h

theorem forgetsFrom_aside (readable : s.Readable) (m : Attempt α) :
    ForgetsFrom (fun a s' b => s' = s ∧ a = b) (Heap.aside m) s m := by
  rw [ForgetsFrom, ← bind_done m.run]
  apply (forgets_onHeap m.run).bind
  rintro o _ rfl
  refine .done ⟨readable, ?_⟩
  cases o with
  | none => exact .inl ⟨rfl, rfl⟩
  | some a => exact .inr ⟨a, a, rfl, rfl, rfl, rfl⟩

section Collecting
variable {Details Entry : Type}

/-- A dump that is collected into one of the variables. -/
theorem forgetsFrom_collectInto (table : BoyLocals → HeapEntries Entry)
    (write : BoyLocals → HeapEntries Entry → BoyLocals) {message : String}
    {send : Boy (VapiDump Details)} {itemSize : Nat} {entry : Details → Entry}
    (readable : ∀ collected, (write s collected).Readable) :
    ForgetsFrom (fun _ s' b => ∃ collected, s' = write s collected ∧ collected.forget = b)
      (Heap.collectInto table write
        (Heap.boyCollect message send (Heap.boyDumpCb itemSize entry))) s
      (orCleanup (boyCollect message send (boyDumpCb itemSize entry) (table s).forget)) := by
  apply (forgets_boyCollect message send itemSize entry (table s)).bind
  rintro ⟨rc, collected⟩ ⟨_, _⟩ ⟨rfl, rfl⟩
  refine .done ⟨readable collected, ?_⟩
  by_cases zero : rc = 0
  · exact .inr ⟨(), collected.forget, by simp [zero], by simp [zero], collected, rfl, rfl⟩
  · exact .inl ⟨by simp [zero], by simp [zero]⟩

end Collecting

/-- The table of the command, in a variable here and passed along there. -/
def TableIn (s : BoyLocals) (_ : Unit) (s' : BoyLocals) (t : AppTable) : Prop :=
  ∃ table, s' = { s with table := table } ∧ Represents table.forget t

theorem forgetsFrom_addRow {t : AppTable} (represents : Represents s.table.forget t)
    (cells : List (Option CString)) (message : String) :
    ForgetsFrom (TableIn s) (Heap.addRow cells message) s
      (OptionT.mk (appTableAddRow t cells >>= fun added =>
        if added.1 ≠ 0 then boyLog .error message [] >>= fun _ => pure none
        else pure (some added.2))) := by
  apply ((forgets_appTableAddRow s.table (some cells)).simulates
    (simulates_appTableAddRow represents cells)).bind
  rintro ⟨rc, table⟩ ⟨rc', t'⟩ ⟨⟨_, _⟩, ⟨rfl, rfl⟩, ⟨rfl, now⟩⟩
  split
  · apply (forgets_onHeap _).bind
    rintro _ _ rfl
    exact .done ⟨⟨t', now⟩, .inl ⟨rfl, rfl⟩⟩
  · exact .done ⟨⟨t', now⟩, .inr ⟨(), t', rfl, rfl, table, rfl, now⟩⟩

theorem forgetsFrom_initTable (readable : s.Readable) (columns : List AppTableColumn)
    (message : String) :
    ForgetsFrom (fun _ s' t => ∃ table, s' = { s with table := table, tableInitialized := true } ∧
        Represents table.forget t) (Heap.initTable columns message) s
      (OptionT.mk (appTableInit columns >>= fun o =>
        match o with
        | none => boyLog .error message [] >>= fun _ => pure none
        | some table => pure (some table))) := by
  have made : Forgets (fun r o => (∃ t, Represents r.2.forget t) ∧ (r.1 = -1 ∧ o = none ∨
      r.1 = 0 ∧ ∃ t, o = some t ∧ Represents r.2.forget t)) (Heap.appTableInit s.table columns)
      (appTableInit columns) := by
    unfold Heap.appTableInit appTableInit
    split
    · exact .done ⟨readable, .inl ⟨rfl, rfl⟩⟩
    · apply Forgets.calloc
      intro block
      cases block with
      | none => exact .done ⟨readable_zero, .inl ⟨rfl, rfl⟩⟩
      | some b =>
        have empty : Represents ⟨columns, [], 0⟩ ⟨columns, [], 0, by simp⟩ :=
          ⟨rfl, rfl, rfl, Nat.le_refl _, rfl⟩
        exact .done ⟨⟨_, empty⟩, .inr ⟨rfl, _, rfl, empty⟩⟩
  apply made.bind
  rintro ⟨rc, table⟩ o ⟨now, ⟨rfl, rfl⟩ | ⟨rfl, t, rfl, represents⟩⟩
  · apply (forgets_onHeap _).bind
    rintro _ _ rfl
    exact .done ⟨now, .inl ⟨rfl, rfl⟩⟩
  · exact .done ⟨now, .inr ⟨(), t, rfl, rfl, table, rfl, represents⟩⟩

/-- Only the block of the widths is forgotten. -/
theorem forgets_appTableRender {t : AppTable} (represents : Represents s.table.forget t) :
    Forgets Eq (Heap.appTableRender s.table) (runAppTableRender t) := by
  unfold Heap.appTableRender runAppTableRender
  rw [shown_of_represents represents]
  dsimp only
  split
  · exact forgets_onHeap _
  · apply Forgets.calloc
    intro widths
    cases widths with
    | none => exact forgets_onHeap _
    | some block => exact .own fun _ => .free (.done rfl)

theorem forgetsFrom_renderTable {t : AppTable} (represents : Represents s.table.forget t) :
    ForgetsFrom (fun _ s' _ => Represents s'.table.forget t) Heap.renderTable s
      (liftM (runAppTableRender t)) := by
  change Forgets _ (Heap.appTableRender s.table >>= fun _ => pure (some (), s))
    (runAppTableRender t >>= fun r => pure (some r))
  apply (forgets_appTableRender represents).bind
  rintro _ _ rfl
  exact .done ⟨⟨t, represents⟩, .inr ⟨(), (), rfl, rfl, represents⟩⟩

/-- Behind the last call there is only the table to free. -/
theorem ForgetsFrom.freeTable {m : HeapAttempt α} {q : Attempt Unit} {t : AppTable}
    (h : ForgetsFrom (fun _ s' _ => Represents s'.table.forget t) m s q) :
    ForgetsFrom (fun _ _ _ => True) (m >>= fun _ => Heap.freeTable) s q := by
  rw [ForgetsFrom, ← bind_done q.run]
  apply Forgets.bind h
  rintro ⟨o, s'⟩ _ ⟨readable, ⟨rfl, rfl⟩ | ⟨a, _, rfl, rfl, represents⟩⟩
  · exact .done ⟨readable, .inl ⟨rfl, rfl⟩⟩
  · change Forgets _ (Heap.appTableFree s'.table >>= fun freed =>
      pure (some (), { s' with table := freed, tableInitialized := false }))
        (.done () >>= fun _ => pure (some ()))
    apply (forgets_appTableFree represents).bind
    rintro _ _ rfl
    exact .done ⟨readable_zero, .inr ⟨(), (), rfl, rfl, trivial⟩⟩

end Parts

/-! ## The loops -/

/-- The table of the command, and what a loop counts beside it. -/
def TableWith {α : Type} (s : BoyLocals) (a : α) (s' : BoyLocals) (r : AppTable × α) : Prop :=
  TableIn s () s' r.1 ∧ a = r.2

theorem forgetsFrom_showSpanEntries (interfaces : List BoyInterfaceEntry)
    (ifEntry : BoyInterfaceEntry)
    (entries : List BoySpanEntry) (found : Bool) {s : BoyLocals} {t : AppTable}
    (represents : Represents s.table.forget t) :
    ForgetsFrom (TableWith s) (Heap.showSpanEntries interfaces ifEntry entries found) s
      (showSpanEntries interfaces ifEntry entries t found) := by
  induction entries generalizing s t found with
  | nil => exact forgetsFrom_pure ⟨t, represents⟩ ⟨⟨s.table, rfl, represents⟩, rfl⟩
  | cons entry entries ih =>
    unfold Heap.showSpanEntries showSpanEntries
    split
    · exact ih found represents
    · apply (forgetsFrom_addRow represents _ _).bind
      rintro _ _ t' _ ⟨table, rfl, now⟩
      exact ih (s := { s with table := table }) true now

theorem forgetsFrom_showSpanInterfaces (interfaces : List BoyInterfaceEntry)
    (entries : List BoySpanEntry) (rest : List BoyInterfaceEntry) {s : BoyLocals} {t : AppTable}
    (represents : Represents s.table.forget t) :
    ForgetsFrom (TableIn s) (Heap.showSpanInterfaces interfaces entries rest) s
      (showSpanInterfaces interfaces entries rest t) := by
  induction rest generalizing s t with
  | nil => exact forgetsFrom_pure ⟨t, represents⟩ ⟨s.table, rfl, represents⟩
  | cons ifEntry rest ih =>
    unfold Heap.showSpanInterfaces showSpanInterfaces
    split
    · exact ih represents
    · apply (forgetsFrom_showSpanEntries interfaces ifEntry entries false represents).bind
      rintro found _ ⟨t', _⟩ readable ⟨⟨table, rfl, now⟩, rfl⟩
      have last : ForgetsFrom (TableIn { s with table := table })
        (Heap.showNoSpanEntry ifEntry found)
          { s with table := table } (showNoSpanEntry ifEntry (t', found)) := by
        unfold Heap.showNoSpanEntry showNoSpanEntry
        split
        · exact forgetsFrom_pure readable ⟨table, rfl, now⟩
        · exact forgetsFrom_addRow now _ _
      apply last.bind
      rintro _ _ t'' _ ⟨table', rfl, now'⟩
      exact ih (s := { s with table := table' }) now'

theorem forgetsFrom_showMemifEntries (entries : List BoyMemifEntry) {s : BoyLocals} {t : AppTable}
    (represents : Represents s.table.forget t) :
    ForgetsFrom (TableIn s) (Heap.showMemifEntries entries) s (showMemifEntries entries t) := by
  induction entries generalizing s t with
  | nil => exact forgetsFrom_pure ⟨t, represents⟩ ⟨s.table, rfl, represents⟩
  | cons entry entries ih =>
    apply (forgetsFrom_addRow represents _ _).bind
    rintro _ _ t' _ ⟨table, rfl, now⟩
    exact ih (s := { s with table := table }) now

theorem forgetsFrom_showPhyInterfaces (entries : List BoyInterfaceEntry) (shown : Nat)
    {s : BoyLocals} {t : AppTable} (represents : Represents s.table.forget t) :
    ForgetsFrom (TableWith s) (Heap.showPhyInterfaces entries shown) s
      (showPhyInterfaces entries t shown) := by
  induction entries generalizing s t shown with
  | nil => exact forgetsFrom_pure ⟨t, represents⟩ ⟨⟨s.table, rfl, represents⟩, rfl⟩
  | cons entry entries ih =>
    unfold Heap.showPhyInterfaces showPhyInterfaces
    split
    · exact ih shown represents
    · apply (forgetsFrom_addRow represents _ _).bind
      rintro _ _ t' _ ⟨table, rfl, now⟩
      exact ih (s := { s with table := table }) _ now

/-! ## The hardware output -/

/-- What was received, with the text in memory. -/
def Received (r : VapiError × Heap.CliInbandResult) (r' : VapiError × BoyCliInbandResult) : Prop :=
  r.1 = r'.1 ∧ r.2.retval = r'.2.map Prod.fst ∧ r.2.reply.map Prod.snd = r'.2.map Prod.snd

theorem forgets_runCliInbandCb (answer : VapiReturn CliInbandReply) :
    Forgets Received (Heap.runCliInbandCb ⟨none, none⟩ answer)
      (runReturnCb boyCliInbandCb answer) := by
  cases answer with
  | silent err => exact .done ⟨rfl, rfl, rfl⟩
  | replied rv reply =>
    unfold Heap.runCliInbandCb Heap.boyCliInbandCb runReturnCb boyCliInbandCb
    simp only
    split
    · exact .done ⟨rfl, rfl, rfl⟩
    · cases reply with
      | none => exact .done ⟨rfl, rfl, rfl⟩
      | some reply =>
        apply Forgets.malloc
        intro block
        cases block with
        | none => exact .done ⟨rfl, rfl, rfl⟩
        | some b => exact .free (.done ⟨rfl, rfl, rfl⟩)

theorem forgets_boyFetchShowHardwareOutput :
    Forgets (fun r r' => r.1 = r'.1 ∧ r.2.map (fun cell => textOf cell.2) = r'.2)
      Heap.boyFetchShowHardwareOutput boyFetchShowHardwareOutput := by
  apply (forgets_onHeap _).bind
  rintro allocated _ rfl
  split
  · apply (forgets_onHeap _).bind
    rintro answer _ rfl
    apply (forgets_runCliInbandCb answer).bind
    rintro ⟨err, given, reply⟩ ⟨_, result⟩ ⟨rfl, retval, output⟩
    simp only at retval output ⊢
    subst retval
    split
    · apply (forgets_onHeap _).bind
      rintro _ _ rfl
      exact .free (.done ⟨rfl, rfl⟩)
    · cases result with
      | none =>
        apply (forgets_onHeap _).bind
        rintro _ _ rfl
        exact .free (.done ⟨rfl, rfl⟩)
      | some received =>
        obtain ⟨retval, bytes⟩ := received
        simp only [Option.map_some]
        split
        · apply (forgets_onHeap _).bind
          rintro _ _ rfl
          exact .free (.done ⟨rfl, rfl⟩)
        · refine .done ⟨rfl, ?_⟩
          obtain ⟨cell, rfl, rfl⟩ := Option.map_eq_some_iff.1 output
          rfl
  · apply (forgets_onHeap _).bind
    rintro _ _ rfl
    exact .done ⟨rfl, rfl⟩

theorem forgets_boyOverride (interfaces : List BoyInterfaceEntry) (cliOutput : HeapCell) :
    Forgets Eq (Heap.boyOverrideCardFamilyFromCliOutput interfaces cliOutput)
      (boyOverrideCardFamilyFromCliOutput interfaces
        (cliOutput.map fun cell => textOf cell.2)) := by
  cases cliOutput with
  | none => exact .done rfl
  | some output =>
    unfold Heap.boyOverrideCardFamilyFromCliOutput boyOverrideCardFamilyFromCliOutput
    simp only [Option.map_some]
    split
    · exact .done rfl
    · apply Forgets.malloc
      intro text
      cases text with
      | none => exact .done rfl
      | some b => exact .free (.done rfl)

/-- The card families are written into the entries, and nothing else is. -/
theorem forgetsFrom_cardFamilies {s : BoyLocals} (readable : s.Readable) :
    ForgetsFrom (fun _ s' entries => ∃ output, s' = { s with
        interfaces := { s.interfaces with entries := entries }, hardwareOutput := output })
      Heap.cardFamilies s (liftM (cardFamilies s.interfaces.entries)) := by
  have families : Forgets (fun r entries => r.1 = some () ∧ ∃ output, r.2 = { s with
      interfaces := { s.interfaces with entries := entries }, hardwareOutput := output })
      (Heap.cardFamilies.run s) (cardFamilies s.interfaces.entries) := by
    apply forgets_boyFetchShowHardwareOutput.bind
    rintro ⟨rc, output⟩ ⟨_, _⟩ ⟨rfl, rfl⟩
    simp only
    split
    · rw [← bind_done (boyOverrideCardFamilyFromCliOutput _ _)]
      apply (forgets_boyOverride _ _).bind
      rintro entries _ rfl
      exact .done ⟨rfl, output, rfl⟩
    · apply (forgets_onHeap _).bind
      rintro _ _ rfl
      exact .done ⟨rfl, output, rfl⟩
  rw [ForgetsFrom, ← bind_done (Heap.cardFamilies.run s)]
  apply families.bind
  rintro ⟨_, _⟩ entries ⟨rfl, output, rfl⟩
  exact .done ⟨readable, .inr ⟨(), entries, rfl, rfl, output, rfl⟩⟩

/-! ## The commands -/

theorem forgetsFrom_gotInterfaces {s : BoyLocals} (readable : s.Readable) :
    ForgetsFrom (fun _ s' b => ∃ collected, s' = { s with interfaces := collected } ∧
      collected.forget = b)
      Heap.gotInterfaces s (orCleanup (boyCollectInterfaces s.interfaces.forget)) :=
  forgetsFrom_collectInto BoyLocals.interfaces (fun s table => { s with interfaces := table })
    fun _ => readable

theorem forgetsFrom_gotSpan {s : BoyLocals} (readable : s.Readable) (isL2 : Bool) :
    ForgetsFrom (fun _ s' b => ∃ collected, s' = { s with spanEntries := collected } ∧
      collected.forget = b)
      (Heap.gotSpan isL2) s (orCleanup (boyCollectSpan isL2 s.spanEntries.forget)) :=
  forgetsFrom_collectInto BoyLocals.spanEntries (fun s table => { s with spanEntries := table })
    fun _ => readable

theorem forgetsFrom_gotMemif {s : BoyLocals} (readable : s.Readable) :
    ForgetsFrom (fun _ s' b => ∃ collected, s' = { s with memifEntries := collected } ∧
      collected.forget = b)
      Heap.gotMemif s (orCleanup (boyCollectMemif s.memifEntries.forget)) :=
  forgetsFrom_collectInto BoyLocals.memifEntries (fun s table => { s with memifEntries := table })
    fun _ => readable

/-- A body that does on the heap what the other does. -/
abbrev ForgetsBody (body : HeapAttempt Unit) (body' : Attempt Unit) : Prop :=
  ForgetsFrom (fun _ _ _ => True) body .zero body'

theorem forgets_showSpanBody : ForgetsBody Heap.showSpanBody showSpanBody := by
  apply (forgetsFrom_gotInterfaces readable_zero).bind
  rintro _ _ _ readable ⟨interfaces, rfl, rfl⟩
  apply (forgetsFrom_gotSpan readable false).bind
  rintro _ _ _ readable ⟨spanEntries, rfl, rfl⟩
  apply (forgetsFrom_gotSpan readable true).bind
  rintro _ _ _ readable ⟨spanEntries, rfl, rfl⟩
  apply (forgetsFrom_initTable readable _ _).bind
  rintro _ _ t _ ⟨table, rfl, represents⟩
  apply forgetsFrom_locals
  apply (forgetsFrom_showSpanInterfaces _ _ _ represents).bind
  rintro _ _ t' _ ⟨table', rfl, represents'⟩
  exact (forgetsFrom_renderTable represents').freeTable

theorem forgets_unsetSpanBody (sourceIfIndex : UInt32) :
    ForgetsBody (Heap.unsetSpanBody sourceIfIndex) (unsetSpanBody sourceIfIndex) := by
  apply (forgetsFrom_gotInterfaces readable_zero).bind
  rintro _ _ _ readable ⟨interfaces, rfl, rfl⟩
  apply (forgetsFrom_gotSpan readable false).bind
  rintro _ _ _ readable ⟨spanEntries, rfl, rfl⟩
  apply (forgetsFrom_gotSpan readable true).bind
  rintro _ _ _ readable ⟨spanEntries, rfl, rfl⟩
  apply forgetsFrom_locals
  exact (forgetsFrom_aside readable _).mono fun _ _ _ _ => trivial

theorem forgets_setSpanBody (sourceIfIndex : UInt32) (destinationMemifName : CString)
    (deviceMode : BoySpanDeviceMode) :
    ForgetsBody (Heap.setSpanBody sourceIfIndex destinationMemifName deviceMode)
      (setSpanBody sourceIfIndex destinationMemifName deviceMode) := by
  apply (forgetsFrom_gotInterfaces readable_zero).bind
  rintro _ _ _ readable ⟨interfaces, rfl, rfl⟩
  apply forgetsFrom_locals
  exact (forgetsFrom_aside readable _).mono fun _ _ _ _ => trivial

theorem forgets_showMemifBody : ForgetsBody Heap.showMemifBody showMemifBody := by
  apply (forgetsFrom_gotMemif readable_zero).bind
  rintro _ _ _ readable ⟨memifEntries, rfl, rfl⟩
  apply (forgetsFrom_initTable readable _ _).bind
  rintro _ _ t _ ⟨table, rfl, represents⟩
  apply forgetsFrom_locals
  apply (forgetsFrom_showMemifEntries _ represents).bind
  rintro _ _ t' _ ⟨table', rfl, represents'⟩
  exact (forgetsFrom_renderTable represents').freeTable

theorem forgets_showPhyBody : ForgetsBody Heap.showPhyBody showPhyBody := by
  apply (forgetsFrom_gotInterfaces readable_zero).bind
  rintro _ _ _ readable ⟨interfaces, rfl, rfl⟩
  apply (forgetsFrom_cardFamilies readable).bind
  rintro _ _ entries readable ⟨output, rfl⟩
  apply (forgetsFrom_initTable readable _ _).bind
  rintro _ _ t _ ⟨table, rfl, represents⟩
  apply forgetsFrom_locals
  apply (forgetsFrom_showPhyInterfaces _ _ represents).bind
  rintro shown _ ⟨t', _⟩ readable ⟨⟨table', rfl, represents'⟩, rfl⟩
  apply (forgetsFrom_renderTable represents').bind
  rintro _ s' _ readable represents''
  apply ForgetsFrom.freeTable (t := t')
  apply (forgetsFrom_aside readable _).mono
  rintro _ _ _ ⟨rfl, _⟩
  exact represents''

/-! ## The whole -/

theorem forgets_cleanupTable {s : BoyLocals} (readable : s.Readable) :
    Forgets (fun _ _ => True) (Heap.cleanupTable s) (.done ()) := by
  obtain ⟨t, represents⟩ := readable
  unfold Heap.cleanupTable
  split
  · apply ((forgets_appTableFree represents).mono fun _ _ _ => trivial).behind
    exact fun _ => .done trivial
  · exact .done trivial

/-- The cleanup only frees. -/
theorem forgets_withVapi {operation : String} {body : HeapAttempt Unit} {body' : Attempt Unit}
    {cleanup : BoyLocals → OnHeap Unit} (h : ForgetsBody body body')
    (cleans : ∀ s : BoyLocals, s.Readable → Forgets (fun _ _ => True) (cleanup s) (.done ())) :
    Forgets Eq (Heap.withVapi operation body cleanup) (withVapi operation body') := by
  apply (forgets_onHeap _).bind
  rintro _ _ rfl
  apply (forgets_onHeap _).bind
  rintro opened _ rfl
  have ended : Forgets (fun r rc => r.2.Readable ∧ (if r.1.isSome then 0 else 1) = rc)
      (Heap.bodyRun opened.1 body) (cleanupCode opened.1 body') := by
    unfold Heap.bodyRun cleanupCode
    split
    · exact .done ⟨readable_zero, rfl⟩
    · rw [← bind_done (body.run .zero)]
      apply Forgets.bind h
      rintro ⟨o, s⟩ o' ⟨readable, ⟨rfl, rfl⟩ | ⟨_, _, rfl, rfl, _⟩⟩
      · exact .done ⟨readable, rfl⟩
      · exact .done ⟨readable, rfl⟩
  apply ended.bind
  rintro ⟨o, s⟩ _ ⟨readable, rfl⟩
  apply (cleans s readable).behind
  intro _
  apply (forgets_onHeap _).bind
  rintro _ _ rfl
  exact .done rfl

theorem forgets_boyRun (options : BoyCliOptions) :
    Forgets Eq (Heap.boyRun options) (boyRun options) := by
  have freed (table : HeapEntries BoyInterfaceEntry) :
      Forgets (fun _ _ => True) (Heap.boyFreeInterfaceTable table >>= fun _ => pure ())
        (.done ()) :=
    (forgets_boyFreeTable table).behind fun _ => .done trivial
  unfold Heap.boyRun boyRun
  cases options.mode with
  | showCodeVersion =>
    apply (forgets_onHeap _).bind
    rintro _ _ rfl
    exact .done rfl
  | setSpan =>
    cases options.setSpanMemifName with
    | none => exact forgets_onHeap _
    | some name => exact forgets_withVapi (forgets_setSpanBody _ _ _) fun s _ => freed s.interfaces
  | unsetSpan =>
    apply forgets_withVapi (forgets_unsetSpanBody _)
    exact fun s _ => (forgets_boyFreeTable _).behind fun _ => freed s.interfaces
  | showMemif =>
    apply forgets_withVapi forgets_showMemifBody
    intro s readable
    apply (forgets_cleanupTable readable).behind
    exact fun _ => (forgets_boyFreeTable _).behind fun _ => .done trivial
  | createMemif => exact forgets_onHeap _
  | showPhy =>
    apply forgets_withVapi forgets_showPhyBody
    intro s readable
    exact .free ((forgets_cleanupTable readable).behind fun _ => freed s.interfaces)
  | showSpan =>
    apply forgets_withVapi forgets_showSpanBody
    intro s readable
    apply (forgets_cleanupTable readable).behind
    exact fun _ => (forgets_boyFreeTable _).behind fun _ => freed s.interfaces
  | showVersion => exact forgets_onHeap _

theorem forgets_boyMain (posixlyCorrect : Bool) (argv : List CString) :
    Forgets Eq (Heap.boyMain posixlyCorrect argv) (boyMain posixlyCorrect argv) := by
  unfold Heap.boyMain boyMain
  cases boyParseCliOptions posixlyCorrect argv with
  | ok options => exact forgets_boyRun options
  | error exit =>
    cases exit
    all_goals exact .done rfl

/-- **`boy` frees what it allocates.** In every run it gives back only blocks of
its own that are live, and leaves none; and its runs are, but for the addresses,
the runs of the commands. -/
theorem boy_frees_its_blocks (posixlyCorrect : Bool) (argv : List CString)
    {others : Multiset Address} (distinct : others.Nodup) :
    (∀ tr e live, Begins (Heap.boyMain posixlyCorrect argv) (tr ++ [e]) →
      Serves allocator others tr live →
      live.Nodup ∧ ∃ mine, live = mine + others ∧ e.call.Allowed mine) ∧
    (∀ tr live rc, Exec allocator (Heap.boyMain posixlyCorrect argv) others tr live rc →
      live = others ∧ Follows (boyMain posixlyCorrect argv) (Forgets.plain tr) rc) ∧
    ∀ tr rc, Follows (boyMain posixlyCorrect argv) tr rc →
      ∃ tr', Exec allocator (Heap.boyMain posixlyCorrect argv) others tr' others rc ∧
        Forgets.plain tr' = tr := by
  have holds := holds_boyMain posixlyCorrect argv
  have forgets := forgets_boyMain posixlyCorrect argv
  have start : 0 + others = others := zero_add others
  have settled {tr : List (Event (MemReply BoyReply))} {live : Multiset Address} {rc : Int}
      (run : Exec allocator (Heap.boyMain posixlyCorrect argv) others tr live rc) :
      live = others := by
    have served := run.serves
    rw [← start] at served
    obtain ⟨_, rfl, rfl⟩ := holds.ends run.follows served
    exact start
  refine ⟨fun tr e live run served => ?_, fun tr live rc run => ?_, fun tr rc run => ?_⟩
  · rw [← start] at served distinct
    exact ⟨holds.nodup run.left served distinct, holds.allowed run served⟩
  · obtain ⟨_, plain, rfl⟩ := forgets.follows run.follows
    exact ⟨settled run, plain⟩
  · obtain ⟨tr', live, _, made, same, rfl⟩ := forgets.followed run others
    obtain rfl := settled made
    exact ⟨tr', made, same⟩

/-- A VPP with one interface. -/
def oneInterfaceAnswer (c : BoyCall) : Option (BoyReply c) :=
  ((⟨[⟨1, .hardware, 3, 1000, .of "eth0".toList, .of "dpdk".toList, Vector.replicate 6 0⟩], ∅, []⟩ :
    AnsweringVpp).answer c).map Prod.fst

/-- The third cell of the row cannot be copied. -/
def interruptedAllocator : CountingAllocator :=
  ⟨[7], 100, [false, false, false, false, false, false, true]⟩

theorem interrupted_show_frees_its_blocks :
    ∃ tr live, Exec allocator (Heap.boyMain false ["boy".toList, "-s".toList]) {7} tr live 1 ∧
      live = {7} := by
  have run : (play (CountingAllocator.answer oneInterfaceAnswer)
    (Heap.boyMain false ["boy".toList, "-s".toList])
      interruptedAllocator).isSome := rfl
  have made := exec_get (CountingAllocator.allocator_answer _) run
  exact ⟨_, _, made, ((boy_frees_its_blocks false _ (Multiset.nodup_singleton 7)).2.1 _ _ _ made).1⟩

end BeastieBoy
