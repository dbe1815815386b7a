import BeastieBoy.CommandBlocks

/-!
# The life of the commands' blocks

Wherever a command of `boy` is, what it has allocated and not freed is in its
variables, and its cleanup frees just that.
-/

namespace BeastieBoy

open CLib Interact Interact.Prog

namespace BoyLocals

def blocks (s : BoyLocals) : Multiset Address :=
  blockAt s.interfaces.block + (blockAt s.spanEntries.block + (blockAt s.memifEntries.block +
    (s.table.blocks + blockAt (s.hardwareOutput.map Prod.fst))))

/-- What every step of a command keeps. -/
structure Sound (s : BoyLocals) : Prop where
  table : s.table.Sound
  uninitialized : s.tableInitialized = false → s.table = .zero

theorem sound_zero : Sound zero := ⟨HeapTable.sound_zero, fun _ => rfl⟩

end BoyLocals

/-- What is live behind a part of a command is in its variables. `K` says which of
them it may use, and the flags whether the table is initialized in front of it
and behind it. -/
def KeepsBlocks {α : Type} (K : BoyLocals → Prop) (ready ready' : Bool)
    (m : HeapAttempt α) : Prop :=
  ∀ s : BoyLocals, K s → s.Sound → s.tableInitialized = ready →
    Holds (fun r mine' => K r.2 ∧ r.2.Sound ∧ (r.1.isSome = true → r.2.tableInitialized = ready') ∧
      mine' = r.2.blocks) (m.run s) s.blocks

section Keeping
variable {α β : Type} {K : BoyLocals → Prop} {ready ready' ready'' : Bool}

theorem keepsBlocks_pure (a : α) : KeepsBlocks K ready ready (pure a) :=
  fun _ used sound flag => ⟨used, sound, fun _ => flag, rfl⟩

theorem KeepsBlocks.bind {m : HeapAttempt α} {f : α → HeapAttempt β}
    (hm : KeepsBlocks K ready ready' m)
    (hf : ∀ a, KeepsBlocks K ready' ready'' (f a)) : KeepsBlocks K ready ready'' (m >>= f) := by
  intro s used sound flag
  apply (hm s used sound flag).bind
  rintro ⟨o, s'⟩ _ ⟨used', sound', flag', rfl⟩
  cases o with
  | none => exact ⟨used', sound', nofun, rfl⟩
  | some a => exact hf a s' used' sound' (flag' rfl)

theorem keepsBlocks_locals : KeepsBlocks K ready ready Heap.locals :=
  fun _ used sound flag => ⟨used, sound, fun _ => flag, rfl⟩

theorem keepsBlocks_aside {m : Attempt α} (h : AllocatesNothing m.run) :
    KeepsBlocks K ready ready (Heap.aside m) := by
  intro s used sound flag
  apply (holds_onHeap h _).bind
  rintro o _ rfl
  exact ⟨used, sound, fun _ => flag, rfl⟩

theorem keepsBlocks_gotInterfaces (may : ∀ s table, K s → K { s with interfaces := table }) :
    KeepsBlocks K ready ready Heap.gotInterfaces := by
  intro s used sound flag
  apply (holds_boyCollect (.call rfl) _ _ s.interfaces _).bind
  rintro collected _ rfl
  exact ⟨may s _ used, ⟨sound.table, sound.uninitialized⟩, fun _ => flag, rfl⟩

theorem keepsBlocks_gotSpan (may : ∀ s table, K s → K { s with spanEntries := table })
    (isL2 : Bool) :
    KeepsBlocks K ready ready (Heap.gotSpan isL2) := by
  intro s used sound flag
  have held : s.blocks = blockAt s.spanEntries.block + (blockAt s.interfaces.block +
      (blockAt s.memifEntries.block +
        (s.table.blocks + blockAt (s.hardwareOutput.map Prod.fst)))) :=
    add_left_comm ..
  rw [held]
  apply (holds_boyCollect (.call rfl) _ _ s.spanEntries _).bind
  rintro collected _ rfl
  exact ⟨may s _ used, ⟨sound.table, sound.uninitialized⟩, fun _ => flag, add_left_comm ..⟩

theorem keepsBlocks_gotMemif (may : ∀ s table, K s → K { s with memifEntries := table }) :
    KeepsBlocks K ready ready Heap.gotMemif := by
  intro s used sound flag
  have held (block : Option Address) :
      blockAt block + (blockAt s.interfaces.block + (blockAt s.spanEntries.block +
        (s.table.blocks + blockAt (s.hardwareOutput.map Prod.fst)))) =
      blockAt s.interfaces.block + (blockAt s.spanEntries.block + (blockAt block +
        (s.table.blocks + blockAt (s.hardwareOutput.map Prod.fst)))) := by abel
  rw [BoyLocals.blocks, ← held]
  apply (holds_boyCollect (.call rfl) _ _ s.memifEntries _).bind
  rintro collected _ rfl
  exact ⟨may s _ used, ⟨sound.table, sound.uninitialized⟩, fun _ => flag, held _⟩

/-- The blocks of the other variables. -/
def BoyLocals.withoutTable (s : BoyLocals) : Multiset Address :=
  blockAt s.interfaces.block + (blockAt s.spanEntries.block + (blockAt s.memifEntries.block +
    blockAt (s.hardwareOutput.map Prod.fst)))

theorem BoyLocals.blocks_eq (s : BoyLocals) : s.blocks = s.table.blocks + s.withoutTable := by
  unfold blocks withoutTable
  abel

/-- A table in place of another. -/
theorem BoyLocals.blocks_table (s : BoyLocals) (table : HeapTable) (initialized : Bool) :
    { s with table := table, tableInitialized := initialized }.blocks =
      table.blocks + s.withoutTable :=
  BoyLocals.blocks_eq { s with table := table, tableInitialized := initialized }

/-- The block of the widths comes and goes. -/
theorem holds_appTableRender {t : HeapTable} (sound : t.Sound) (mine : Multiset Address) :
    Holds (fun _ mine' => mine' = mine) (Heap.appTableRender t) mine := by
  obtain ⟨shown, there⟩ := sound.shown
  have prints (widths : Bool) (mine : Multiset Address) : Holds (fun _ mine' => mine' = mine)
      (Heap.onHeap (boyCall (.appTableRender shown widths))) mine := holds_onHeap (.call rfl) mine
  unfold Heap.appTableRender
  rw [there]
  dsimp only
  split
  · exact prints false mine
  · apply (holds_calloc _ _).bind
    rintro widths _ rfl
    cases widths with
    | none =>
      rw [blockAt_none, zero_add]
      exact prints false mine
    | some block =>
      apply (prints true _).bind
      rintro _ _ rfl
      exact holds_free (some block)

theorem keepsBlocks_renderTable : KeepsBlocks K true true Heap.renderTable := by
  intro s used sound flag
  apply (holds_appTableRender sound.table _).bind
  rintro _ _ rfl
  exact ⟨used, sound, fun _ => flag, rfl⟩

variable (may : ∀ s table initialized, K s →
    K { s with table := table, tableInitialized := initialized })
include may

theorem keepsBlocks_initTable (columns : List AppTableColumn) (message : String) :
    KeepsBlocks K false true (Heap.initTable columns message) := by
  intro s used sound flag
  have empty : s.table = .zero := sound.uninitialized flag
  rw [BoyLocals.blocks_eq, empty, HeapTable.blocks_zero, zero_add]
  simp only [Heap.initTable, OptionT.run_mk, empty]
  apply (holds_appTableInit columns _).bind
  rintro made _ ⟨madeSound, failed, rfl⟩
  split
  · rename_i failure
    apply (holds_onHeap (.log _ _ _) _).bind
    rintro _ _ rfl
    rw [failed failure]
    exact ⟨may s _ _ used, ⟨HeapTable.sound_zero, fun _ => rfl⟩, nofun, (s.blocks_table _ _).symm⟩
  · exact ⟨may s _ _ used, ⟨madeSound, nofun⟩, fun _ => rfl, (s.blocks_table _ _).symm⟩

theorem keepsBlocks_addRow (cells : List (Option CString)) (message : String) :
    KeepsBlocks K true true (Heap.addRow cells message) := by
  intro s used sound flag
  rw [BoyLocals.blocks_eq]
  apply (holds_appTableAddRow sound.table (some cells) _).bind
  rintro added _ ⟨madeSound, rfl⟩
  have sound' : BoyLocals.Sound { s with table := added.2 } :=
    ⟨madeSound, fun no => by rw [flag] at no; cases no⟩
  split
  · apply (holds_onHeap (.log _ _ _) _).bind
    rintro _ _ rfl
    exact ⟨may s _ _ used, sound', nofun, (s.blocks_table _ _).symm⟩
  · exact ⟨may s _ _ used, sound', fun _ => flag, (s.blocks_table _ _).symm⟩

theorem keepsBlocks_freeTable : KeepsBlocks K true false Heap.freeTable := by
  intro s used sound flag
  rw [BoyLocals.blocks_eq]
  apply (holds_appTableFree sound.table _).bind
  rintro freed _ ⟨rfl, rfl⟩
  refine ⟨may s _ _ used, ⟨HeapTable.sound_zero, fun _ => rfl⟩, fun _ => rfl, ?_⟩
  exact ((s.blocks_table .zero false).trans (zero_add _)).symm

end Keeping

/-! ## The loops -/

section Loops
variable {K : BoyLocals → Prop}
  (may : ∀ s table initialized, K s → K { s with table := table, tableInitialized := initialized })
include may

theorem keepsBlocks_showSpanEntries (interfaces : List BoyInterfaceEntry)
    (ifEntry : BoyInterfaceEntry) (entries : List BoySpanEntry) (found : Bool) :
    KeepsBlocks K true true (Heap.showSpanEntries interfaces ifEntry entries found) := by
  induction entries generalizing found with
  | nil => exact keepsBlocks_pure found
  | cons entry entries ih =>
    unfold Heap.showSpanEntries
    split
    · exact ih found
    · exact (keepsBlocks_addRow may _ _).bind fun _ => ih true

theorem keepsBlocks_showSpanInterfaces (interfaces : List BoyInterfaceEntry)
    (entries : List BoySpanEntry)
    (rest : List BoyInterfaceEntry) :
      KeepsBlocks K true true (Heap.showSpanInterfaces interfaces entries rest) := by
  induction rest with
  | nil => exact keepsBlocks_pure ()
  | cons ifEntry rest ih =>
    unfold Heap.showSpanInterfaces
    split
    · exact ih
    · apply (keepsBlocks_showSpanEntries may _ _ _ _).bind
      intro found
      have last : KeepsBlocks K true true (Heap.showNoSpanEntry ifEntry found) := by
        unfold Heap.showNoSpanEntry
        split
        · exact keepsBlocks_pure ()
        · exact keepsBlocks_addRow may _ _
      exact last.bind fun _ => ih

theorem keepsBlocks_showMemifEntries (entries : List BoyMemifEntry) :
    KeepsBlocks K true true (Heap.showMemifEntries entries) := by
  induction entries with
  | nil => exact keepsBlocks_pure ()
  | cons entry entries ih => exact (keepsBlocks_addRow may _ _).bind fun _ => ih

theorem keepsBlocks_showPhyInterfaces (entries : List BoyInterfaceEntry) (shown : Nat) :
    KeepsBlocks K true true (Heap.showPhyInterfaces entries shown) := by
  induction entries generalizing shown with
  | nil => exact keepsBlocks_pure shown
  | cons entry entries ih =>
    unfold Heap.showPhyInterfaces
    split
    · exact ih shown
    · exact (keepsBlocks_addRow may _ _).bind fun _ => ih _

end Loops

/-! ## The hardware output -/

theorem holds_boyCliInbandCb (result : Heap.CliInbandResult) (rv : VapiError)
    (reply : Option CliInbandReply) (mine : Multiset Address) :
    Holds (fun r mine' => mine' = blockAt (r.2.reply.map Prod.fst) + mine)
      (Heap.boyCliInbandCb result rv reply)
      (blockAt (result.reply.map Prod.fst) + mine) := by
  unfold Heap.boyCliInbandCb
  split
  · rfl
  · cases reply with
    | none => rfl
    | some reply =>
      apply (holds_malloc _).bind
      rintro block _ rfl
      cases block with
      | none => exact zero_add _
      | some b =>
        rw [add_left_comm]
        apply (holds_free _).bind
        rintro _ _ rfl
        rfl

/-- What was received is the output, or was freed. -/
theorem holds_boyFetchShowHardwareOutput (mine : Multiset Address) :
    Holds (fun r mine' => mine' = blockAt (r.2.map Prod.fst) + mine)
      Heap.boyFetchShowHardwareOutput mine := by
  have failed {result : Heap.CliInbandResult} {mine : Multiset Address} (level : AppLogLevel)
      (format : String) (args : List BoyLogArg) :
      Holds (fun r mine' => mine' = blockAt (r.2.map Prod.fst) + mine) (do
        Heap.onHeap (boyLog level format args)
        memCall (.free (result.reply.map Prod.fst))
        pure (1, none) : OnHeap (Int × HeapCell)) (blockAt (result.reply.map Prod.fst) + mine) := by
    apply (holds_onHeap (.log _ _ _) _).bind
    rintro _ _ rfl
    apply (holds_free _).bind
    rintro _ _ rfl
    exact (zero_add _).symm
  apply (holds_onHeap (.call rfl) _).bind
  rintro allocated mine rfl
  split
  · apply (holds_onHeap (.call rfl) _).bind
    rintro answer mine rfl
    have received : Holds (fun r mine' => mine' = blockAt (r.2.reply.map Prod.fst) + mine)
        (Heap.runCliInbandCb ⟨none, none⟩ answer) mine := by
      cases answer with
      | silent err => exact (zero_add _).symm
      | replied rv reply =>
        have called := holds_boyCliInbandCb ⟨none, none⟩ rv reply mine
        rw [Option.map_none, blockAt_none, zero_add] at called
        exact called
    apply received.bind
    rintro result _ rfl
    split
    · exact failed _ _ _
    · split
      · exact failed _ _ _
      · split
        · exact failed _ _ _
        · rfl
  · apply (holds_onHeap (.log _ _ _) _).bind
    rintro _ _ rfl
    exact (zero_add _).symm

theorem holds_boyOverride (interfaces : List BoyInterfaceEntry) (cliOutput : HeapCell)
    (mine : Multiset Address) :
    Holds (fun _ mine' => mine' = mine)
      (Heap.boyOverrideCardFamilyFromCliOutput interfaces cliOutput) mine := by
  cases cliOutput with
  | none => rfl
  | some output =>
    unfold Heap.boyOverrideCardFamilyFromCliOutput
    simp only
    split
    · rfl
    · apply (holds_malloc _).bind
      rintro text _ rfl
      cases text with
      | none => exact zero_add _
      | some b =>
        apply (holds_free (some b)).bind
        rintro _ _ rfl
        rfl

/-! ## The commands -/

/-- The variables that each command leaves alone. -/
def OfShowSpan (s : BoyLocals) : Prop := s.memifEntries.block = none ∧ s.hardwareOutput = none

def OfUnsetSpan (s : BoyLocals) : Prop :=
  s.memifEntries.block = none ∧ s.table = .zero ∧ s.hardwareOutput = none

def OfSetSpan (s : BoyLocals) : Prop := s.spanEntries.block = none ∧ OfUnsetSpan s

def OfShowMemif (s : BoyLocals) : Prop :=
  s.interfaces.block = none ∧ s.spanEntries.block = none ∧ s.hardwareOutput = none

def OfShowPhy (s : BoyLocals) : Prop := s.spanEntries.block = none ∧ s.memifEntries.block = none

/-- A body that began with nothing: what is live is in its variables. -/
abbrev Leaves (K : BoyLocals → Prop) (body : HeapAttempt Unit) : Prop :=
  Holds (fun r mine' => K r.2 ∧ r.2.Sound ∧ mine' = r.2.blocks) (body.run .zero) 0

theorem KeepsBlocks.leaves {K : BoyLocals → Prop} {ready : Bool} {body : HeapAttempt Unit}
    (h : KeepsBlocks K false ready body) (start : K .zero) : Leaves K body := by
  apply (h .zero start BoyLocals.sound_zero rfl).mono
  rintro r mine' ⟨used, sound, _, held⟩
  exact ⟨used, sound, held⟩

theorem leaves_showSpanBody : Leaves OfShowSpan Heap.showSpanBody := by
  suffices kept : KeepsBlocks OfShowSpan false false Heap.showSpanBody from kept.leaves ⟨rfl, rfl⟩
  have table (s : BoyLocals) (table : HeapTable) (initialized : Bool) (h : OfShowSpan s) :
      OfShowSpan { s with table := table, tableInitialized := initialized } := h
  have entries (s : BoyLocals) (table : HeapEntries BoySpanEntry) (h : OfShowSpan s) :
      OfShowSpan { s with spanEntries := table } := h
  apply (keepsBlocks_gotInterfaces fun _ _ h => h).bind
  intro _
  apply (keepsBlocks_gotSpan entries false).bind
  intro _
  apply (keepsBlocks_gotSpan entries true).bind
  intro _
  apply (keepsBlocks_initTable table _ _).bind
  intro _
  apply keepsBlocks_locals.bind
  intro s
  apply (keepsBlocks_showSpanInterfaces table _ _ _).bind
  intro _
  apply keepsBlocks_renderTable.bind
  intro _
  exact keepsBlocks_freeTable table

theorem leaves_unsetSpanBody (sourceIfIndex : UInt32) :
    Leaves OfUnsetSpan (Heap.unsetSpanBody sourceIfIndex) := by
  suffices kept : KeepsBlocks OfUnsetSpan false false (Heap.unsetSpanBody sourceIfIndex) from
    kept.leaves ⟨rfl, rfl, rfl⟩
  have entries (s : BoyLocals) (table : HeapEntries BoySpanEntry) (h : OfUnsetSpan s) :
      OfUnsetSpan { s with spanEntries := table } := h
  apply (keepsBlocks_gotInterfaces fun _ _ h => h).bind
  intro _
  apply (keepsBlocks_gotSpan entries false).bind
  intro _
  apply (keepsBlocks_gotSpan entries true).bind
  intro _
  apply keepsBlocks_locals.bind
  intro s
  apply keepsBlocks_aside
  apply (AllocatesNothing.unsetSpanEntries _ _ _ _).attempt
  intro removed
  apply AllocatesNothing.lift
  exact AllocatesNothing.ite (.log _ _ _) (.log _ _ _)

theorem leaves_setSpanBody (sourceIfIndex : UInt32) (destinationMemifName : CString)
    (deviceMode : BoySpanDeviceMode) :
    Leaves OfSetSpan (Heap.setSpanBody sourceIfIndex destinationMemifName deviceMode) := by
  suffices kept : KeepsBlocks OfSetSpan false false
      (Heap.setSpanBody sourceIfIndex destinationMemifName deviceMode) from
    kept.leaves ⟨rfl, rfl, rfl, rfl⟩
  apply (keepsBlocks_gotInterfaces fun _ _ h => h).bind
  intro _
  apply keepsBlocks_locals.bind
  intro s
  exact keepsBlocks_aside (.checkedSpan _ _ _ _)

theorem leaves_showMemifBody : Leaves OfShowMemif Heap.showMemifBody := by
  suffices kept : KeepsBlocks OfShowMemif false false Heap.showMemifBody from
    kept.leaves ⟨rfl, rfl, rfl⟩
  have table (s : BoyLocals) (table : HeapTable) (initialized : Bool) (h : OfShowMemif s) :
      OfShowMemif { s with table := table, tableInitialized := initialized } := h
  apply (keepsBlocks_gotMemif fun _ _ h => h).bind
  intro _
  apply (keepsBlocks_initTable table _ _).bind
  intro _
  apply keepsBlocks_locals.bind
  intro s
  apply (keepsBlocks_showMemifEntries table _).bind
  intro _
  apply keepsBlocks_renderTable.bind
  intro _
  exact keepsBlocks_freeTable table

/-- The output that was fetched is in `hardware_output`, where there was none. -/
theorem holds_cardFamilies {s : BoyLocals} (used : OfShowPhy s) (empty : s.hardwareOutput = none)
    (sound : s.Sound) :
    Holds (fun r mine' => OfShowPhy r.2 ∧ r.2.Sound ∧ r.2.tableInitialized = s.tableInitialized ∧
      mine' = r.2.blocks) (Heap.cardFamilies.run s) s.blocks := by
  have held (output : HeapCell) : blockAt (output.map Prod.fst) + s.blocks =
      { s with hardwareOutput := output }.blocks := by
    simp only [BoyLocals.blocks, empty, Option.map_none, blockAt_none, add_zero]
    abel
  apply (holds_boyFetchShowHardwareOutput s.blocks).bind
  rintro fetched _ rfl
  rw [held fetched.2]
  simp only
  split
  · apply (holds_boyOverride _ _ _).bind
    rintro entries _ rfl
    exact ⟨used, ⟨sound.table, sound.uninitialized⟩, rfl, rfl⟩
  · apply (holds_onHeap (.log _ _ _) _).bind
    rintro _ _ rfl
    exact ⟨used, ⟨sound.table, sound.uninitialized⟩, rfl, rfl⟩

theorem leaves_showPhyBody : Leaves OfShowPhy Heap.showPhyBody := by
  have table (s : BoyLocals) (table : HeapTable) (initialized : Bool) (h : OfShowPhy s) :
      OfShowPhy { s with table := table, tableInitialized := initialized } := h
  have shows : KeepsBlocks OfShowPhy false false (do
      Heap.initTable phyColumns "failed to initialize table for physical interface output"
      let s ← Heap.locals
      let shown ← Heap.showPhyInterfaces s.interfaces.entries 0
      Heap.renderTable
      Heap.aside (if shown = 0 then boyLog .info "no physical interfaces found" [] else pure ())
      Heap.freeTable) := by
    apply (keepsBlocks_initTable table _ _).bind
    intro _
    apply keepsBlocks_locals.bind
    intro s
    apply (keepsBlocks_showPhyInterfaces table _ _).bind
    intro shown
    apply keepsBlocks_renderTable.bind
    intro _
    have said : AllocatesNothing (OptionT.run
      (if shown = 0 then boyLog .info "no physical interfaces found" []
        else pure ())) := by
      split
      · exact (AllocatesNothing.log _ _ _).lift
      · trivial
    exact (keepsBlocks_aside said).bind fun _ => keepsBlocks_freeTable table
  have collects : KeepsBlocks (fun s => OfShowPhy s ∧
    s.hardwareOutput = none) false false Heap.gotInterfaces :=
    keepsBlocks_gotInterfaces fun _ _ h => h
  apply (collects .zero ⟨⟨rfl, rfl⟩, rfl⟩ BoyLocals.sound_zero rfl).bind
  rintro ⟨o, s⟩ _ ⟨⟨used, empty⟩, sound, flag, rfl⟩
  cases o with
  | none => exact ⟨used, sound, rfl⟩
  | some _ =>
    apply (holds_cardFamilies used empty sound).bind
    rintro ⟨o', s'⟩ _ ⟨used', sound', flag', rfl⟩
    cases o' with
    | none => exact ⟨used', sound', rfl⟩
    | some _ =>
      apply (shows s' used' sound' (flag'.trans (flag rfl))).mono
      rintro r mine' ⟨used'', sound'', _, held⟩
      exact ⟨used'', sound'', held⟩

/-! ## The label `cleanup` -/

theorem holds_cleanupTable {s : BoyLocals} (sound : s.Sound) (mine : Multiset Address) :
    Holds (fun _ mine' => mine' = mine) (Heap.cleanupTable s) (s.table.blocks + mine) := by
  unfold Heap.cleanupTable
  split
  · apply (holds_appTableFree sound.table _).bind
    rintro _ _ ⟨_, rfl⟩
    rfl
  · rename_i flag
    rw [sound.uninitialized (Bool.not_eq_true _ ▸ flag), HeapTable.blocks_zero]
    exact zero_add mine

theorem holds_showSpanCleanup {s : BoyLocals} (used : OfShowSpan s) (sound : s.Sound) :
    Holds (fun _ mine' => mine' = 0) (Heap.showSpanCleanup s) s.blocks := by
  have held : s.blocks =
      s.table.blocks + (blockAt s.spanEntries.block + (blockAt s.interfaces.block + 0)) := by
    simp only [BoyLocals.blocks, used.1, used.2, Option.map_none, blockAt_none]
    abel
  rw [held]
  apply (holds_cleanupTable sound _).bind
  rintro _ _ rfl
  apply (holds_boyFreeTable _ _).bind
  rintro _ _ rfl
  apply (holds_boyFreeTable _ _).bind
  rintro _ _ rfl
  rfl

theorem holds_unsetSpanCleanup {s : BoyLocals} (used : OfUnsetSpan s) :
    Holds (fun _ mine' => mine' = 0) (Heap.unsetSpanCleanup s) s.blocks := by
  have held : s.blocks = blockAt s.spanEntries.block + (blockAt s.interfaces.block + 0) := by
    simp only [BoyLocals.blocks, used.1, used.2.1, used.2.2, Option.map_none, blockAt_none,
      HeapTable.blocks_zero]
    abel
  rw [held]
  apply (holds_boyFreeTable _ _).bind
  rintro _ _ rfl
  apply (holds_boyFreeTable _ _).bind
  rintro _ _ rfl
  rfl

theorem holds_setSpanCleanup {s : BoyLocals} (used : OfSetSpan s) :
    Holds (fun _ mine' => mine' = 0) (Heap.setSpanCleanup s) s.blocks := by
  have held : s.blocks = blockAt s.interfaces.block + 0 := by
    simp only [BoyLocals.blocks, used.1, used.2.1, used.2.2.1, used.2.2.2, Option.map_none,
      blockAt_none,
      HeapTable.blocks_zero, add_zero]
  rw [held]
  apply (holds_boyFreeTable _ _).bind
  rintro _ _ rfl
  rfl

theorem holds_showMemifCleanup {s : BoyLocals} (used : OfShowMemif s) (sound : s.Sound) :
    Holds (fun _ mine' => mine' = 0) (Heap.showMemifCleanup s) s.blocks := by
  have held : s.blocks = s.table.blocks + (blockAt s.memifEntries.block + 0) := by
    simp only [BoyLocals.blocks, used.1, used.2.1, used.2.2, Option.map_none, blockAt_none]
    abel
  rw [held]
  apply (holds_cleanupTable sound _).bind
  rintro _ _ rfl
  apply (holds_boyFreeTable _ _).bind
  rintro _ _ rfl
  rfl

theorem holds_showPhyCleanup {s : BoyLocals} (used : OfShowPhy s) (sound : s.Sound) :
    Holds (fun _ mine' => mine' = 0) (Heap.showPhyCleanup s) s.blocks := by
  have held : s.blocks = blockAt (s.hardwareOutput.map Prod.fst) +
      (s.table.blocks + (blockAt s.interfaces.block + 0)) := by
    simp only [BoyLocals.blocks, used.1, used.2, blockAt_none]
    abel
  rw [held]
  apply (holds_free _).bind
  rintro _ _ rfl
  apply (holds_cleanupTable sound _).bind
  rintro _ _ rfl
  apply (holds_boyFreeTable _ _).bind
  rintro _ _ rfl
  rfl

/-! ## The whole -/

/-- The cleanup frees what the body left, or nothing if there was no body. -/
theorem holds_withVapi {K : BoyLocals → Prop} {operation : String} {body : HeapAttempt Unit}
    {cleanup : BoyLocals → OnHeap Unit} (leaves : Leaves K body) (start : K .zero)
    (cleans : ∀ s : BoyLocals, K s → s.Sound →
      Holds (fun _ mine' => mine' = 0) (cleanup s) s.blocks) :
    Holds (fun _ mine' => mine' = 0) (Heap.withVapi operation body cleanup) 0 := by
  apply (holds_onHeap (.call rfl) _).bind
  rintro _ _ rfl
  apply (holds_onHeap .boyOpenVapi _).bind
  rintro opened _ rfl
  have ended : Holds (fun r mine' => K r.2 ∧ r.2.Sound ∧ mine' = r.2.blocks)
      (Heap.bodyRun opened.1 body) 0 := by
    unfold Heap.bodyRun
    split
    · exact ⟨start, BoyLocals.sound_zero, rfl⟩
    · exact leaves
  apply ended.bind
  rintro ⟨o, s⟩ _ ⟨used, sound, rfl⟩
  apply (cleans s used sound).bind
  rintro _ _ rfl
  apply (holds_onHeap (.boyCloseVapi _) _).bind
  rintro _ _ rfl
  rfl

theorem holds_boyRun (options : BoyCliOptions) :
    Holds (fun _ mine' => mine' = 0) (Heap.boyRun options) 0 := by
  unfold Heap.boyRun
  split
  · apply (holds_onHeap (.call rfl) _).bind
    rintro _ _ rfl
    rfl
  · split
    · exact holds_withVapi (leaves_setSpanBody _ _ _) ⟨rfl, rfl, rfl, rfl⟩ fun _ used _ =>
        holds_setSpanCleanup used
    · exact holds_onHeap .stuck _
  · exact holds_withVapi (leaves_unsetSpanBody _) ⟨rfl, rfl, rfl⟩ fun _ used _ =>
      holds_unsetSpanCleanup used
  · exact holds_withVapi leaves_showMemifBody ⟨rfl, rfl, rfl⟩ fun _ => holds_showMemifCleanup
  · exact holds_onHeap (.boyCreateMemif _) _
  · exact holds_withVapi leaves_showPhyBody ⟨rfl, rfl⟩ fun _ => holds_showPhyCleanup
  · exact holds_withVapi leaves_showSpanBody ⟨rfl, rfl⟩ fun _ => holds_showSpanCleanup
  · exact holds_onHeap .boyShowVersion _

theorem holds_boyMain (posixlyCorrect : Bool) (argv : List CString) :
    Holds (fun _ mine' => mine' = 0) (Heap.boyMain posixlyCorrect argv) 0 := by
  unfold Heap.boyMain
  split
  · exact holds_boyRun _
  · rfl
  · rfl

end BeastieBoy
