import BeastieBoy.CliOptions
import BeastieBoy.TableBlocks

/-!
# The commands on the heap

The tables of `collectors.c` and the commands of `boy`, with the blocks they
allocate and what they free behind the label `cleanup`. What a command holds is
in its variables, which a `goto cleanup` leaves as they are.
-/

namespace BeastieBoy

open CLib Interact Interact.Prog

/-- A table of `collectors.h` with its array. -/
structure HeapEntries (Entry : Type) where
  entries : List Entry
  block : Option Address
  capacity : Nat

def HeapEntries.zero {Entry : Type} : HeapEntries Entry := ⟨[], none, 0⟩

/-- The variables of the commands that hold memory. A command has some of them;
the others stay at zero, and so does `table` where it is not initialized. -/
structure BoyLocals where
  interfaces : HeapEntries BoyInterfaceEntry
  spanEntries : HeapEntries BoySpanEntry
  memifEntries : HeapEntries BoyMemifEntry
  table : HeapTable
  tableInitialized : Bool
  hardwareOutput : HeapCell

def BoyLocals.zero : BoyLocals := ⟨.zero, .zero, .zero, .zero, false, none⟩

/-- Given up, it is a `goto cleanup`. -/
abbrev HeapAttempt := OptionT (StateT BoyLocals OnHeap)

namespace Heap

/-- What does not free anything, and keeps nothing. -/
def onHeap {α : Type} : Boy α → OnHeap α
  | .done a => .done a
  | .call (.malloc size) next => .call (.malloc size) fun block =>
      onHeap (next (Option.isSome block))
  | .call (.calloc count size) next => .call (.calloc count size) fun block =>
      onHeap (next (Option.isSome block))
  | .call (.realloc size) next => .call (.realloc none size) fun block =>
      onHeap (next (Option.isSome block))
  | .call c next => .call (.own c) fun r => onHeap (next r)

/-! ## `collectors.c` -/

section Collectors
variable {Details Entry : Type}

def boyReserveEntries (table : HeapEntries Entry) (itemSize requiredCount : Nat) :
    OnHeap (Int × Option Address × Nat) := reserve table.block table.capacity itemSize requiredCount

def boyDumpCb (itemSize : Nat) (entry : Details → Entry) (table : HeapEntries Entry)
    (cb : DumpCallback Details) :
    OnHeap (VapiError × HeapEntries Entry) :=
  if cb.rv ≠ .ok then
    pure (cb.rv, table)
  else
    match cb.isLast, cb.reply with
    | false, some reply => do
      let reserved ← boyReserveEntries table itemSize (table.entries.length + 1)
      if reserved.1 ≠ 0 then pure (.enomem, table)
      else pure (.ok, ⟨table.entries ++ [entry reply], reserved.2.1, reserved.2.2⟩)
    | _, _ => pure (.ok, table)

def runDumpCallbacks
    (cb : HeapEntries Entry → DumpCallback Details → OnHeap (VapiError × HeapEntries Entry)) :
    List (DumpCallback Details) → HeapEntries Entry → OnHeap (VapiError × HeapEntries Entry)
  | [], table => pure (.ok, table)
  | next :: rest, table => do
    let result ← cb table next
    if result.1 ≠ .ok then pure result else runDumpCallbacks cb rest result.2

def boyCollect (message : String) (send : Boy (VapiDump Details))
    (cb : HeapEntries Entry → DumpCallback Details → OnHeap (VapiError × HeapEntries Entry))
    (table : HeapEntries Entry) : OnHeap (Int × HeapEntries Entry) := do
  let allocated : Bool ← onHeap (boyCall (.vapiAlloc message))
  if allocated then
    let dump ← onHeap send
    let result ← runDumpCallbacks cb dump.callbacks table
    let err := if result.1 ≠ .ok then result.1 else dump.err
    if err ≠ .ok then
      onHeap (boyLog .error ("vapi_" ++ message ++ " failed: %s") [.str (boyVapiErrorStr err)])
      pure (1, result.2)
    else
      pure (0, result.2)
  else
    onHeap (boyLog .error ("vapi_alloc_" ++ message ++ " failed") [])
    pure (1, table)

/-- The common body of `boy_free_interface_table`, `boy_free_span_table` and
`boy_free_memif_table`. -/
def boyFreeTable (table : HeapEntries Entry) : OnHeap (HeapEntries Entry) := do
  memCall (.free table.block)
  pure .zero

end Collectors

def boyCollectInterfaces (table : HeapEntries BoyInterfaceEntry) :
    OnHeap (Int × HeapEntries BoyInterfaceEntry) :=
  boyCollect "sw_interface_dump" (boyCall .swInterfaceDump)
    (boyDumpCb sizeofBoyInterfaceEntry interfaceEntry) table

def boyCollectSpan (isL2 : Bool) (table : HeapEntries BoySpanEntry) :
    OnHeap (Int × HeapEntries BoySpanEntry) :=
  boyCollect "sw_interface_span_dump" (boyCall (.swInterfaceSpanDump isL2))
    (boyDumpCb sizeofBoySpanEntry spanEntry) table

def boyCollectMemif (table : HeapEntries BoyMemifEntry) :
    OnHeap (Int × HeapEntries BoyMemifEntry) :=
  boyCollect "memif_dump" (boyCall .memifDump) (boyDumpCb sizeofBoyMemifEntry memifEntry) table

def boyFreeInterfaceTable (table : HeapEntries BoyInterfaceEntry) :
    OnHeap (HeapEntries BoyInterfaceEntry) :=
  boyFreeTable table

def boyFreeSpanTable (table : HeapEntries BoySpanEntry) : OnHeap (HeapEntries BoySpanEntry) :=
  boyFreeTable table

def boyFreeMemifTable (table : HeapEntries BoyMemifEntry) : OnHeap (HeapEntries BoyMemifEntry) :=
  boyFreeTable table

/-! ## What the commands share -/

def locals : HeapAttempt BoyLocals := OptionT.mk fun s => pure (some s, s)

/-- A part that holds no memory. -/
def aside {α : Type} (m : Attempt α) : HeapAttempt α :=
  OptionT.mk fun s => onHeap m.run >>= fun o => pure (o, s)

/-- `if (boy_collect_...(..., &table) != 0) goto cleanup;`, for one of the
variables. -/
def collectInto {Entry : Type} (table : BoyLocals → HeapEntries Entry)
    (write : BoyLocals → HeapEntries Entry → BoyLocals)
    (collect : HeapEntries Entry → OnHeap (Int × HeapEntries Entry)) : HeapAttempt Unit :=
  OptionT.mk fun s => do
    let collected ← collect (table s)
    pure (if collected.1 ≠ 0 then none else some (), write s collected.2)

def gotInterfaces : HeapAttempt Unit :=
  collectInto BoyLocals.interfaces
    (fun s table => { s with interfaces := table }) boyCollectInterfaces

def gotSpan (isL2 : Bool) : HeapAttempt Unit :=
  collectInto BoyLocals.spanEntries (fun s table => { s with spanEntries := table })
    (boyCollectSpan isL2)

def gotMemif : HeapAttempt Unit :=
  collectInto BoyLocals.memifEntries
    (fun s table => { s with memifEntries := table }) boyCollectMemif

/-- `app_table_init`, and the message if it fails. -/
def initTable (columns : List AppTableColumn) (message : String) : HeapAttempt Unit :=
  OptionT.mk fun s => do
    let made ← appTableInit s.table columns
    if made.1 ≠ 0 then
      onHeap (boyLog .error message [])
      pure (none, { s with table := made.2 })
    else
      pure (some (), { s with table := made.2, tableInitialized := true })

/-- `app_table_add_row`, and the message if it fails. -/
def addRow (cells : List (Option CString)) (message : String) : HeapAttempt Unit :=
  OptionT.mk fun s => do
    let added ← appTableAddRow s.table (some cells)
    if added.1 ≠ 0 then
      onHeap (boyLog .error message [])
      pure (none, { s with table := added.2 })
    else
      pure (some (), { s with table := added.2 })

end Heap

def HeapRow.texts : HeapRow → List (Option CString)
  | .cells _ copies => copies.map (·.map Prod.snd)
  | _ => []

/-- What rendering reads of a table, if it is all there. -/
def HeapTable.shown (t : HeapTable) : Option AppTable :=
  if whole : ∀ cells ∈ t.visibleRows.map HeapRow.texts, cells.length = t.columns.length then
    some ⟨t.columns, t.visibleRows.map HeapRow.texts, t.rows.length, whole⟩
  else none

namespace Heap

/-- The widths are freed behind the loops that print. -/
def appTableRender (table : HeapTable) : OnHeap Unit :=
  match table.shown with
  | none => memCall .undefined
  | some shown =>
    if shown.columns = [] then
      onHeap (boyCall (.appTableRender shown false))
    else do
      let widths : Option Address ← memCall (.calloc shown.columns.length sizeofSizeT)
      match widths with
      | none => onHeap (boyCall (.appTableRender shown false))
      | some block => do
        onHeap (boyCall (.appTableRender shown true))
        memCall (.free (some block))

def renderTable : HeapAttempt Unit :=
  OptionT.mk fun s => appTableRender s.table >>= fun _ => pure (some (), s)

/-- `table_initialized = false; app_table_free(&table);`. -/
def freeTable : HeapAttempt Unit :=
  OptionT.mk fun s => do
    let freed ← appTableFree s.table
    pure (some (), { s with table := freed, tableInitialized := false })

def cleanupTable (s : BoyLocals) : OnHeap Unit :=
  if s.tableInitialized then appTableFree s.table >>= fun _ => pure () else pure ()

/-- What the variables are at the label `cleanup`. -/
def bodyRun (opened : Int) (body : HeapAttempt Unit) : OnHeap (Option Unit × BoyLocals) :=
  if opened ≠ 0 then pure (none, .zero) else body.run .zero

def withVapi (operation : String) (body : HeapAttempt Unit) (cleanup : BoyLocals → OnHeap Unit) :
    OnHeap Int := do
  onHeap (boyCall (.boyLogStart operation))
  let opened ← onHeap boyOpenVapi
  let ended ← bodyRun opened.1 body
  cleanup ended.2
  onHeap (boyCloseVapi opened.2)
  pure (if ended.1.isSome then 0 else 1)

/-! ## `span_cmd.c` -/

def boyAddSpanRow (ifEntry : BoyInterfaceEntry) (destination device l2 : CString) :
    HeapAttempt Unit :=
  addRow (spanRow ifEntry destination device l2) "failed to append SPAN table row"

/-- The inner `for` loop, and `found`. -/
def showSpanEntries (interfaces : List BoyInterfaceEntry) (ifEntry : BoyInterfaceEntry) :
    List BoySpanEntry → Bool → HeapAttempt Bool
  | [], found => pure found
  | entry :: entries, found =>
    if entry.swIfIndexFrom ≠ ifEntry.swIfIndex then
      showSpanEntries interfaces ifEntry entries found
    else do
      let dst := boyFindInterfaceName interfaces entry.swIfIndexTo
      let deviceState := if entry.isL2 then "*".toList else boySpanStateDevice entry.state
      boyAddSpanRow ifEntry dst deviceState (boySpanStateL2 entry.state entry.isL2)
      showSpanEntries interfaces ifEntry entries true

def showNoSpanEntry (ifEntry : BoyInterfaceEntry) (found : Bool) : HeapAttempt Unit :=
  if found then pure () else boyAddSpanRow ifEntry "*".toList "*".toList "*".toList

/-- The outer `for` loop. -/
def showSpanInterfaces (interfaces : List BoyInterfaceEntry) (entries : List BoySpanEntry) :
    List BoyInterfaceEntry → HeapAttempt Unit
  | [] => pure ()
  | ifEntry :: rest =>
    if ¬ boyIsSpanSourceCandidate ifEntry then
      showSpanInterfaces interfaces entries rest
    else do
      let found ← showSpanEntries interfaces ifEntry entries false
      showNoSpanEntry ifEntry found
      showSpanInterfaces interfaces entries rest

def showSpanBody : HeapAttempt Unit := do
  gotInterfaces
  gotSpan false
  gotSpan true
  initTable spanColumns "failed to initialize table for SPAN output"
  let s ← locals
  showSpanInterfaces s.interfaces.entries s.spanEntries.entries s.interfaces.entries
  renderTable
  freeTable

def showSpanCleanup (s : BoyLocals) : OnHeap Unit := do
  cleanupTable s
  let _ ← boyFreeSpanTable s.spanEntries
  let _ ← boyFreeInterfaceTable s.interfaces

def boyShowSpan : OnHeap Int :=
  withVapi "querying SPAN candidates and state via libvapi" showSpanBody showSpanCleanup

def unsetSpanBody (sourceIfIndex : UInt32) : HeapAttempt Unit := do
  gotInterfaces
  gotSpan false
  gotSpan true
  let s ← locals
  let sourceName := boyFindInterfaceName s.interfaces.entries sourceIfIndex
  aside do
    let removed ← unsetSpanEntries s.interfaces.entries sourceIfIndex s.spanEntries.entries 0
    reportRemoved removed sourceIfIndex sourceName

def unsetSpanCleanup (s : BoyLocals) : OnHeap Unit := do
  let _ ← boyFreeSpanTable s.spanEntries
  let _ ← boyFreeInterfaceTable s.interfaces

def boyUnsetSpan (sourceIfIndex : UInt32) : OnHeap Int :=
  withVapi "removing SPAN entries via libvapi" (unsetSpanBody sourceIfIndex) unsetSpanCleanup

def setSpanBody (sourceIfIndex : UInt32) (destinationMemifName : CString)
    (deviceMode : BoySpanDeviceMode) :
    HeapAttempt Unit := do
  gotInterfaces
  let s ← locals
  aside (checkedSpan s.interfaces.entries sourceIfIndex destinationMemifName deviceMode)

def setSpanCleanup (s : BoyLocals) : OnHeap Unit := do
  let _ ← boyFreeInterfaceTable s.interfaces

def boySetSpan (sourceIfIndex : UInt32) (destinationMemifName : CString)
    (deviceMode : BoySpanDeviceMode) :
    OnHeap Int :=
  withVapi "setting SPAN entry via libvapi"
    (setSpanBody sourceIfIndex destinationMemifName deviceMode) setSpanCleanup

/-! ## `memif_cmd.c` -/

/-- The `for` loop. -/
def showMemifEntries : List BoyMemifEntry → HeapAttempt Unit
  | [] => pure ()
  | entry :: rest => do
    addRow (memifRow entry) "failed to append memif table row"
    showMemifEntries rest

def showMemifBody : HeapAttempt Unit := do
  gotMemif
  initTable memifColumns "failed to initialize table for memif output"
  let s ← locals
  showMemifEntries s.memifEntries.entries
  renderTable
  freeTable

def showMemifCleanup (s : BoyLocals) : OnHeap Unit := do
  cleanupTable s
  let _ ← boyFreeMemifTable s.memifEntries

def boyShowMemif : OnHeap Int :=
  withVapi "querying memif state via libvapi" showMemifBody showMemifCleanup

/-! ## `phy_cmd.c` -/

/-- `boy_cli_inband_result_t`; the `retval`, once a reply was received. -/
structure CliInbandResult where
  retval : Option Int
  reply : HeapCell

def boyCliInbandCb (result : CliInbandResult) (rv : VapiError) (reply : Option CliInbandReply) :
    OnHeap (VapiError × CliInbandResult) :=
  if rv ≠ .ok then pure (rv, result)
  else
    match reply with
    | none => pure (.ok, result)
    | some reply => do
      let block : Option Address ← memCall (.malloc (reply.reply.length + 1))
      match block with
      | none => pure (.enomem, result)
      | some b => do
        memCall (.free (result.reply.map Prod.fst))
        pure (.ok, ⟨some reply.retval, some (b, reply.reply)⟩)

def runCliInbandCb (result : CliInbandResult) :
    VapiReturn CliInbandReply → OnHeap (VapiError × CliInbandResult)
  | .silent err => pure (err, result)
  | .replied rv reply => boyCliInbandCb result rv reply

/-- The return value, and `*output`. -/
def boyFetchShowHardwareOutput : OnHeap (Int × HeapCell) := do
  let allocated : Bool ← onHeap (boyCall (.vapiAlloc "cli_inband"))
  if allocated then
    let answer : VapiReturn CliInbandReply ← onHeap
      (boyCall (.cliInband "show hardware-interfaces".toList))
    let result ← runCliInbandCb ⟨none, none⟩ answer
    if result.1 ≠ .ok then
      onHeap (boyLog .error "vapi_cli_inband failed: %s" [.str (boyVapiErrorStr result.1)])
      memCall (.free (result.2.reply.map Prod.fst))
      pure (1, none)
    else
      match result.2.retval with
      | none =>
        onHeap (boyLog .error "cli_inband returned no reply" [])
        memCall (.free (result.2.reply.map Prod.fst))
        pure (1, none)
      | some retval =>
        if retval ≠ 0 then
          onHeap (boyLog .warning "cli_inband show hardware-interfaces retval=%d" [.int retval])
          memCall (.free (result.2.reply.map Prod.fst))
          pure (1, none)
        else
          pure (0, result.2.reply)
  else
    onHeap (boyLog .error "vapi_alloc_cli_inband failed" [])
    pure (1, none)

/-- The copy of the text is freed behind the loop. -/
def boyOverrideCardFamilyFromCliOutput (interfaces : List BoyInterfaceEntry)
    (cliOutput : HeapCell) :
    OnHeap (List BoyInterfaceEntry) :=
  match cliOutput with
  | none => pure interfaces
  | some (_, bytes) =>
    if textOf bytes = [] then pure interfaces
    else do
      let text : Option Address ← memCall (.malloc ((textOf bytes).length + 1))
      match text with
      | none => pure interfaces
      | some b => do
        let scan :=
          (tokens '\n' (textOf bytes)).foldl CardFamilyScan.readLine ⟨interfaces, none, false⟩
        memCall (.free (some b))
        pure scan.interfaces

/-- The `for` loop, and `shown`. -/
def showPhyInterfaces : List BoyInterfaceEntry → Nat → HeapAttempt Nat
  | [], shown => pure shown
  | entry :: rest, shown =>
    if ¬ boyIsPhysicalInterface entry then
      showPhyInterfaces rest shown
    else do
      addRow (phyRow entry) "failed to append physical interface table row"
      showPhyInterfaces rest ((shown + 1) % 2 ^ 64)

/-- The output is kept in `hardware_output`. -/
def cardFamilies : HeapAttempt Unit :=
  OptionT.mk fun s => do
    let fetched ← boyFetchShowHardwareOutput
    let s := { s with hardwareOutput := fetched.2 }
    if fetched.1 = 0 then
      let entries ← boyOverrideCardFamilyFromCliOutput s.interfaces.entries s.hardwareOutput
      pure (some (), { s with interfaces := { s.interfaces with entries := entries } })
    else
      onHeap (boyLog .debug "using interface_dev_type as card family fallback" [])
      pure (some (), s)

def showPhyBody : HeapAttempt Unit := do
  gotInterfaces
  cardFamilies
  initTable phyColumns "failed to initialize table for physical interface output"
  let s ← locals
  let shown ← showPhyInterfaces s.interfaces.entries 0
  renderTable
  aside (if shown = 0 then boyLog .info "no physical interfaces found" [] else pure ())
  freeTable

def showPhyCleanup (s : BoyLocals) : OnHeap Unit := do
  memCall (.free (s.hardwareOutput.map Prod.fst))
  cleanupTable s
  let _ ← boyFreeInterfaceTable s.interfaces

def boyShowPhy : OnHeap Int :=
  withVapi "querying physical interface state via libvapi" showPhyBody showPhyCleanup

/-! ## `main.c` -/

/-- `boy_create_memif` and `boy_show_version` hold no memory. -/
def boyRun (options : BoyCliOptions) : OnHeap Int :=
  match options.mode with
  | .showCodeVersion => do
    onHeap (boyCall (.appPrintVersion "boy"))
    pure 0
  | .setSpan =>
    match options.setSpanMemifName with
    | some name => boySetSpan options.setSpanIfIndex name options.setSpanDeviceMode
    | none => onHeap stuck
  | .unsetSpan => boyUnsetSpan options.unsetSpanIfIndex
  | .showMemif => boyShowMemif
  | .createMemif => onHeap (boyCreateMemif options.memifCreate)
  | .showPhy => boyShowPhy
  | .showSpan => boyShowSpan
  | .showVersion => onHeap boyShowVersion

def boyMain (posixlyCorrect : Bool) (argv : List CString) : OnHeap Int :=
  match boyParseCliOptions posixlyCorrect argv with
  | .ok options => boyRun options
  | .error .help => pure 0
  | .error _ => pure 1

end Heap

/-! ## Parts without memory -/

def BoyCall.allocates : BoyCall → Bool
  | .malloc _ => true
  | .calloc .. => true
  | .realloc _ => true
  | _ => false

abbrev AllocatesNothing {α : Type} (p : Boy α) : Prop :=
  p.Only (fun c => c.allocates = false) fun _ => True

namespace AllocatesNothing
variable {α β : Type}

theorem bind {p : Boy α} {f : α → Boy β} (hp : AllocatesNothing p)
    (hf : ∀ a, AllocatesNothing (f a)) :
    AllocatesNothing (p >>= f) := Only.bind hp fun a _ => hf a

theorem attempt {m : Attempt α} {f : α → Attempt β} (hm : AllocatesNothing m.run)
    (hf : ∀ a, AllocatesNothing (f a).run) : AllocatesNothing (m >>= f).run :=
  Only.attempt hm id fun a _ => hf a

theorem ite {c : Prop} [Decidable c] {p q : Boy α} (hp : AllocatesNothing p)
    (hq : AllocatesNothing q) :
    AllocatesNothing (if c then p else q) := by
  split
  · exact hp
  · exact hq

theorem call {c : BoyCall} (h : c.allocates = false) : AllocatesNothing (boyCall c) :=
  ⟨h, fun _ => trivial⟩

theorem log (level : AppLogLevel) (format : String) (args : List BoyLogArg) :
    AllocatesNothing (boyLog level format args) := call rfl

theorem stuck : AllocatesNothing (stuck : Boy α) := ⟨rfl, nofun⟩

theorem lift {p : Boy α} (hp : AllocatesNothing p) : AllocatesNothing (liftM p : Attempt α).run :=
  hp.bind fun _ => trivial

theorem unlessZero {m : Boy Int} (hm : AllocatesNothing m) : AllocatesNothing (unlessZero m).run :=
  hm.bind fun _ => trivial

theorem logThenCleanup (format : String) (args : List BoyLogArg) :
    AllocatesNothing (logThenCleanup format args : Attempt α).run :=
  (log _ _ _).bind fun _ => trivial

theorem runReturnCb {Payload Result : Type}
    {cb : VapiError → Option Payload → Boy (VapiError × Option Result)}
    (hcb : ∀ rv reply, AllocatesNothing (cb rv reply)) (answer : VapiReturn Payload) :
    AllocatesNothing (runReturnCb cb answer) := by
  cases answer with
  | silent err => trivial
  | replied rv reply => exact hcb rv reply

theorem boyOpenVapi : AllocatesNothing boyOpenVapi := by
  apply (call rfl).bind
  intro err
  apply ite
  · exact (log _ _ _).bind fun _ => trivial
  · apply (call rfl).bind
    intro err
    apply ite
    · exact (log _ _ _).bind fun _ => (call rfl).bind fun _ => trivial
    · trivial

theorem boyCloseVapi (ctx : Bool) : AllocatesNothing (boyCloseVapi ctx) := by
  apply ite
  · exact (call rfl).bind fun _ => call rfl
  · trivial

theorem boySimpleRequest {message : String} {send : Boy VapiAnswer} (hsend : AllocatesNothing send)
    {cb : VapiError → Option Int → Boy (VapiError × BoySimpleReplyResult)}
    {failed : VapiError → Boy Unit} {noReply : Boy Unit} {refused : Int → Boy Unit}
    (hcb : ∀ rv reply, AllocatesNothing (cb rv reply))
    (hfailed : ∀ err, AllocatesNothing (failed err))
    (hnoReply : AllocatesNothing noReply) (hrefused : ∀ retval, AllocatesNothing (refused retval)) :
    AllocatesNothing (boySimpleRequest message send cb failed noReply refused) := by
  apply (call rfl).bind
  intro allocated
  apply ite
  · apply hsend.bind
    intro answer
    have judged : AllocatesNothing (runSimpleCb cb answer) := by
      cases answer with
      | silent err => trivial
      | replied rv reply => exact hcb rv reply
    apply judged.bind
    intro result
    apply ite
    · exact (hfailed _).bind fun _ => trivial
    · split
      · exact hnoReply.bind fun _ => trivial
      · exact ite ((hrefused _).bind fun _ => trivial) trivial
  · exact (log _ _ _).bind fun _ => trivial

theorem boySetInterfaceAdminUp (swIfIndex : UInt32) :
    AllocatesNothing (boySetInterfaceAdminUp swIfIndex) := by
  apply boySimpleRequest (call rfl)
  · exact fun _ _ => ite trivial trivial
  · exact fun _ => log _ _ _
  · exact log _ _ _
  · exact fun _ => log _ _ _

theorem boySetSpanEntry (swIfIndexFrom swIfIndexTo : UInt32) (state : SpanState) (isL2 : Bool) :
    AllocatesNothing (boySetSpanEntry swIfIndexFrom swIfIndexTo state isL2) := by
  apply boySimpleRequest (call rfl)
  · intro rv reply
    apply ite
    · trivial
    · cases reply with
      | none => exact stuck
      | some retval => trivial
  · exact fun _ => log _ _ _
  · exact log _ _ _
  · exact fun _ => log _ _ _

theorem unsetSpanEntries (interfaces : List BoyInterfaceEntry) (sourceIfIndex : UInt32)
    (entries : List BoySpanEntry) (removed : Nat) :
    AllocatesNothing (unsetSpanEntries interfaces sourceIfIndex entries removed).run := by
  induction entries generalizing removed with
  | nil => trivial
  | cons entry entries ih =>
    unfold BeastieBoy.unsetSpanEntries
    split
    · exact ih removed
    · apply (log _ _ _).lift.attempt
      intro _
      exact (boySetSpanEntry _ _ _ _).unlessZero.attempt fun _ => ih _

theorem bringUp (role : String) (entry : BoyInterfaceEntry) :
    AllocatesNothing (bringUp role entry).run := by
  unfold BeastieBoy.bringUp
  split
  · exact (log _ _ _).lift.attempt fun _ => (boySetInterfaceAdminUp _).unlessZero
  · trivial

theorem checkedSpan (interfaces : List BoyInterfaceEntry) (sourceIfIndex : UInt32)
    (destinationMemifName : CString) (deviceMode : BoySpanDeviceMode) :
    AllocatesNothing
      (checkedSpan interfaces sourceIfIndex destinationMemifName deviceMode).run := by
  unfold BeastieBoy.checkedSpan
  split
  · exact logThenCleanup _ _
  · split
    · exact logThenCleanup _ _
    · split
      · exact logThenCleanup _ _
      · split
        · exact logThenCleanup _ _
        · apply (bringUp _ _).attempt
          intro _
          apply (bringUp _ _).attempt
          intro _
          apply (log _ _ _).lift.attempt
          intro _
          exact (boySetSpanEntry _ _ _ _).unlessZero.attempt fun _ => (log _ _ _).lift

theorem withVapi (operation : String) {body : Attempt Unit} (h : AllocatesNothing body.run) :
    AllocatesNothing (withVapi operation body) := by
  apply (call rfl).bind
  intro _
  apply boyOpenVapi.bind
  intro opened
  have code : AllocatesNothing (cleanupCode opened.1 body) := ite trivial (h.bind fun _ => trivial)
  apply code.bind
  intro rc
  exact (boyCloseVapi _).bind fun _ => trivial

theorem boyCreateMemif (options : BoyMemifCreateOptions) :
    AllocatesNothing (boyCreateMemif options) := by
  apply withVapi
  apply (call rfl).lift.attempt
  intro allocated
  split
  · apply (call rfl).lift.attempt
    intro answer
    have judged : AllocatesNothing (BeastieBoy.runReturnCb boyMemifCreateCb answer) := by
      apply runReturnCb
      intro rv reply
      apply ite
      · trivial
      · cases reply with
        | none => exact stuck
        | some reply => trivial
    apply judged.lift.attempt
    intro result
    split
    · exact logThenCleanup _ _
    · split
      · exact logThenCleanup _ _
      · split
        · exact logThenCleanup _ _
        · apply (boySetInterfaceAdminUp _).lift.attempt
          intro rc
          split
          · exact logThenCleanup _ _
          · exact (log _ _ _).lift
  · exact logThenCleanup _ _

theorem boyShowVersion : AllocatesNothing boyShowVersion := by
  apply withVapi
  apply (call rfl).lift.attempt
  intro allocated
  split
  · apply (call rfl).lift.attempt
    intro answer
    have judged : AllocatesNothing (BeastieBoy.runReturnCb boyShowVersionCb answer) := by
      apply runReturnCb
      intro rv reply
      apply ite
      · trivial
      · cases reply with
        | none => exact stuck
        | some reply => trivial
    apply judged.lift.attempt
    intro result
    split
    · exact logThenCleanup _ _
    · split
      · exact logThenCleanup _ _
      · unfold reportVersion
        split
        · exact logThenCleanup _ _
        · apply (log _ _ _).lift.attempt
          intro _
          apply (log _ _ _).lift.attempt
          intro _
          exact (log _ _ _).lift.attempt fun _ => (log _ _ _).lift
  · exact logThenCleanup _ _

end AllocatesNothing

/-! ## What a function holds -/

theorem holds_onHeap {α : Type} {p : Boy α} (h : AllocatesNothing p) (mine : Multiset Address) :
    Holds (fun _ mine' => mine' = mine) (Heap.onHeap p) mine := by
  induction p with
  | done a => rfl
  | call c next ih =>
    cases c
    case malloc | calloc | realloc => cases h.1
    all_goals exact ⟨⟨nofun, nofun⟩, fun r _ same => same ▸ ih r (h.2 r)⟩

section Collectors
variable {Details Entry : Type}

theorem holds_boyDumpCb (itemSize : Nat) (entry : Details → Entry) (table : HeapEntries Entry)
    (cb : DumpCallback Details) (mine : Multiset Address) :
    Holds (fun r mine' => mine' = blockAt r.2.block + mine) (Heap.boyDumpCb itemSize entry table cb)
      (blockAt table.block + mine) := by
  unfold Heap.boyDumpCb
  split
  · rfl
  · split
    · apply (holds_reserve _ _ _ _ _).bind
      rintro reserved _ ⟨rfl, _, kept⟩
      split
      · rename_i failed
        rw [kept failed]
        rfl
      · rfl
    · rfl

theorem holds_runDumpCallbacks (itemSize : Nat) (entry : Details → Entry)
    (cbs : List (DumpCallback Details)) (table : HeapEntries Entry) (mine : Multiset Address) :
    Holds (fun r mine' => mine' = blockAt r.2.block + mine)
      (Heap.runDumpCallbacks (Heap.boyDumpCb itemSize entry) cbs table)
        (blockAt table.block + mine) := by
  induction cbs generalizing table with
  | nil => rfl
  | cons cb cbs ih =>
    apply (holds_boyDumpCb _ _ _ _ _).bind
    rintro result _ rfl
    split
    · rfl
    · exact ih result.2

/-- A collector holds its array, also when it fails. -/
theorem holds_boyCollect {message : String} {send : Boy (VapiDump Details)}
    (hsend : AllocatesNothing send)
    (itemSize : Nat) (entry : Details → Entry) (table : HeapEntries Entry)
    (mine : Multiset Address) :
    Holds (fun r mine' => mine' = blockAt r.2.block + mine)
      (Heap.boyCollect message send (Heap.boyDumpCb itemSize entry) table)
        (blockAt table.block + mine) := by
  apply (holds_onHeap (.call rfl) _).bind
  rintro allocated _ rfl
  split
  · apply (holds_onHeap hsend _).bind
    rintro dump _ rfl
    apply (holds_runDumpCallbacks _ _ _ _ _).bind
    rintro result _ rfl
    generalize (if result.1 ≠ .ok then result.1 else dump.err) = err
    simp only
    split
    · apply (holds_onHeap (.log _ _ _) _).bind
      rintro _ _ rfl
      rfl
    · rfl
  · apply (holds_onHeap (.log _ _ _) _).bind
    rintro _ _ rfl
    rfl

theorem holds_boyFreeTable (table : HeapEntries Entry) (mine : Multiset Address) :
    Holds (fun _ mine' => mine' = mine) (Heap.boyFreeTable table) (blockAt table.block + mine) := by
  apply (holds_free _).bind
  rintro _ _ rfl
  rfl

end Collectors

/-- All that rendering reads is there. -/
theorem HeapTable.Sound.shown {t : HeapTable} (h : t.Sound) : ∃ shown, t.shown = some shown := by
  have whole : ∀ cells ∈ t.visibleRows.map HeapRow.texts, cells.length = t.columns.length := by
    intro cells there
    obtain ⟨row, visible, rfl⟩ := List.mem_map.1 there
    have rowWhole := h.whole row visible
    cases row with
    | unset => exact rowWhole.elim
    | null => exact rowWhole.elim
    | cells block copies => exact (List.length_map _).trans rowWhole.1
  exact ⟨_, dif_pos whole⟩

end BeastieBoy
