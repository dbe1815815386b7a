import BeastieBoy.TableRows

/-!
# The SPAN commands

`commands/span_cmd.c`. A function that ends with the label `cleanup` is an
attempt: `goto cleanup` gives it up. Freeing the tables has no effect here.
-/

namespace BeastieBoy

open CLib Interact

inductive BoySpanDeviceMode where
  | rx
  | tx
  | both
  deriving DecidableEq

/-- Given up, it is a `goto cleanup`. -/
abbrev Attempt := OptionT Boy

/-- `if (... != 0) goto cleanup;`. -/
def orCleanup {α : Type} (m : Boy (Int × α)) : Attempt α :=
  OptionT.mk (m >>= fun r => pure (if r.1 ≠ 0 then none else some r.2))

def unlessZero (m : Boy Int) : Attempt Unit :=
  OptionT.mk (m >>= fun rc => pure (if rc ≠ 0 then none else some ()))

def logThenCleanup {α : Type} (format : String) (args : List BoyLogArg) : Attempt α :=
  OptionT.mk (boyLog .error format args >>= fun _ => pure none)

/-- `rc` at the label `cleanup`. -/
def cleanupCode (opened : Int) (body : Attempt Unit) : Boy Int :=
  if opened ≠ 0 then pure 1
  else body.run >>= fun finished => pure (if finished.isSome then 0 else 1)

/-- What the three commands have in common: the context around them. -/
def withVapi (operation : String) (body : Attempt Unit) : Boy Int := do
  boyCall (.boyLogStart operation)
  let opened ← boyOpenVapi
  let rc ← cleanupCode opened.1 body
  boyCloseVapi opened.2
  pure rc

/-! ## One entry -/

/-- The reply is followed without a test. -/
def boySpanEnableDisableCb (rv : VapiError) (reply : Option Int) :
    Boy (VapiError × BoySimpleReplyResult) :=
  if rv ≠ .ok then pure (rv, none)
  else
    match reply with
    | some retval => pure (.ok, some retval)
    | none => stuck

def boySetSpanEntry (swIfIndexFrom swIfIndexTo : UInt32) (state : SpanState)
    (isL2 : Bool) : Boy Int :=
  boySimpleRequest "sw_interface_span_enable_disable"
    (boyCall (.swInterfaceSpanEnableDisable swIfIndexFrom swIfIndexTo state isL2))
    boySpanEnableDisableCb
    (fun err => boyLog .error "vapi_sw_interface_span_enable_disable failed: %s"
      [.str (boyVapiErrorStr err)])
    (boyLog .error "sw_interface_span_enable_disable returned no reply" [])
    (fun retval => boyLog .error "sw_interface_span_enable_disable retval=%d" [.int retval])

def boyFindInterfaceEntryByIndex (table : List BoyInterfaceEntry) (ifIndex : UInt32) :
    Option BoyInterfaceEntry :=
  table.find? (·.swIfIndex = ifIndex)

def boyFindInterfaceEntryByName (table : List BoyInterfaceEntry) (name : CString) :
    Option BoyInterfaceEntry :=
  table.find? (·.interfaceName = name)

def boySpanStateFromDeviceMode : BoySpanDeviceMode → SpanState
  | .rx => .rx
  | .tx => .tx
  | .both => .rxTx

/-! ## `boy_show_span` -/

/-- `%u`. -/
def formatU (n : UInt32) : CString := Nat.toDigits 10 n.toNat

/-- The cells of `boy_add_span_row`. -/
def spanRow (ifEntry : BoyInterfaceEntry) (destination device l2 : CString) :
    List (Option CString) :=
  [some ifEntry.interfaceName, some (formatU ifEntry.swIfIndex),
    some (boyIfTypeToString ifEntry.type),
    some ifEntry.interfaceDevType, some destination, some device, some l2]

def boyAddSpanRow (table : AppTable) (ifEntry : BoyInterfaceEntry)
    (destination device l2 : CString) :
    Boy (Int × AppTable) :=
  appTableAddRow table (spanRow ifEntry destination device l2)

def spanColumns : List AppTableColumn := [
  ⟨some "Interface Name".toList, 14, 0, true, .left⟩,
  ⟨some "If-Index".toList, 8, 10, false, .right⟩,
  ⟨some "If-Type".toList, 7, 12, false, .left⟩,
  ⟨some "Dev-Type".toList, 8, 0, true, .left⟩,
  ⟨some "Destination".toList, 11, 0, true, .left⟩,
  ⟨some "Device".toList, 6, 8, false, .left⟩,
  ⟨some "L2".toList, 2, 8, false, .left⟩]

/-- A row, or the message that it could not be added. -/
def showSpanRow (table : AppTable) (ifEntry : BoyInterfaceEntry) (destination device l2 : CString) :
    Attempt AppTable :=
  OptionT.mk do
    let added ← boyAddSpanRow table ifEntry destination device l2
    if added.1 ≠ 0 then
      boyLog .error "failed to append SPAN table row" []
      pure none
    else
      pure (some added.2)

/-- The inner `for` loop: the table, and `found`. -/
def showSpanEntries (interfaces : List BoyInterfaceEntry) (ifEntry : BoyInterfaceEntry) :
    List BoySpanEntry → AppTable → Bool → Attempt (AppTable × Bool)
  | [], table, found => pure (table, found)
  | entry :: entries, table, found =>
    if entry.swIfIndexFrom ≠ ifEntry.swIfIndex then
      showSpanEntries interfaces ifEntry entries table found
    else do
      let dst := boyFindInterfaceName interfaces entry.swIfIndexTo
      let deviceState := if entry.isL2 then "*".toList else boySpanStateDevice entry.state
      let table ← showSpanRow table ifEntry dst deviceState (boySpanStateL2 entry.state entry.isL2)
      showSpanEntries interfaces ifEntry entries table true

/-- The row of an interface without entries. -/
def showNoSpanEntry (ifEntry : BoyInterfaceEntry) (shown : AppTable × Bool) : Attempt AppTable :=
  if shown.2 then pure shown.1
  else showSpanRow shown.1 ifEntry "*".toList "*".toList "*".toList

/-- The outer `for` loop. -/
def showSpanInterfaces (interfaces : List BoyInterfaceEntry) (entries : List BoySpanEntry) :
    List BoyInterfaceEntry → AppTable → Attempt AppTable
  | [], table => pure table
  | ifEntry :: rest, table =>
    if ¬ boyIsSpanSourceCandidate ifEntry then
      showSpanInterfaces interfaces entries rest table
    else do
      let shown ← showSpanEntries interfaces ifEntry entries table false
      let table ← showNoSpanEntry ifEntry shown
      showSpanInterfaces interfaces entries rest table

def showSpanTable : Attempt AppTable :=
  OptionT.mk do
    match ← appTableInit spanColumns with
    | none =>
      boyLog .error "failed to initialize table for SPAN output" []
      pure none
    | some table => pure (some table)

def showSpanBody : Attempt Unit := do
  let interfaces ← orCleanup (boyCollectInterfaces .empty)
  let entries ← orCleanup (boyCollectSpan false .empty)
  let entries ← orCleanup (boyCollectSpan true entries)
  let table ← showSpanTable
  let table ← showSpanInterfaces interfaces.entries entries.entries interfaces.entries table
  runAppTableRender table

def boyShowSpan : Boy Int := withVapi "querying SPAN candidates and state via libvapi" showSpanBody

/-! ## `boy_unset_span` -/

def yesNo (b : Bool) : CString := if b then "yes".toList else "no".toList

/-- The `for` loop. The number is `removed`, 64 bits wide. -/
def unsetSpanEntries (interfaces : List BoyInterfaceEntry) (sourceIfIndex : UInt32) :
    List BoySpanEntry → Nat → Attempt Nat
  | [], removed => pure removed
  | entry :: entries, removed =>
    if entry.swIfIndexFrom ≠ sourceIfIndex then
      unsetSpanEntries interfaces sourceIfIndex entries removed
    else do
      boyLog .debug "disabling SPAN: src=%s(%u) dst=%s(%u) l2=%s"
        [.str (boyFindInterfaceName interfaces entry.swIfIndexFrom), .u32 entry.swIfIndexFrom,
          .str (boyFindInterfaceName interfaces entry.swIfIndexTo), .u32 entry.swIfIndexTo,
          .str (yesNo entry.isL2)]
      unlessZero (boySetSpanEntry entry.swIfIndexFrom entry.swIfIndexTo .disabled entry.isL2)
      unsetSpanEntries interfaces sourceIfIndex entries ((removed + 1) % 2 ^ 64)

def reportRemoved (removed : Nat) (sourceIfIndex : UInt32) (sourceName : CString) : Boy Unit :=
  if removed = 0 then
    boyLog .warning "no SPAN entries found for source if-index=%u (%s)"
      [.u32 sourceIfIndex, .str sourceName]
  else
    boyLog .info "removed %zu SPAN entr%s for source if-index=%u (%s)"
      [.size removed, .str (if removed = 1 then "y".toList else "ies".toList), .u32 sourceIfIndex,
        .str sourceName]

def unsetSpanBody (sourceIfIndex : UInt32) : Attempt Unit := do
  let interfaces ← orCleanup (boyCollectInterfaces .empty)
  let entries ← orCleanup (boyCollectSpan false .empty)
  let entries ← orCleanup (boyCollectSpan true entries)
  let sourceName := boyFindInterfaceName interfaces.entries sourceIfIndex
  let removed ← unsetSpanEntries interfaces.entries sourceIfIndex entries.entries 0
  reportRemoved removed sourceIfIndex sourceName

def boyUnsetSpan (sourceIfIndex : UInt32) : Boy Int :=
  withVapi "removing SPAN entries via libvapi" (unsetSpanBody sourceIfIndex)

/-! ## `boy_set_span` -/

/-- One of the two tests for an interface that is down; `role` is the first word
of its message. -/
def bringUp (role : String) (entry : BoyInterfaceEntry) : Attempt Unit :=
  if entry.flags &&& ifStatusApiFlagAdminUp = 0 then do
    boyLog .info (role ++ " interface %s(%u) is admin-down, setting it admin-up")
      [.str entry.interfaceName, .u32 entry.swIfIndex]
    unlessZero (boySetInterfaceAdminUp entry.swIfIndex)
  else
    pure ()

/-- Behind the tests of the operands. -/
def configureSpan (sourceEntry destinationEntry : BoyInterfaceEntry)
    (deviceMode : BoySpanDeviceMode) :
    Attempt Unit := do
  bringUp "source" sourceEntry
  bringUp "destination" destinationEntry
  let state := boySpanStateFromDeviceMode deviceMode
  boyLog .info "setting SPAN: src=%s(%u) dst=%s(%u) device=%s l2=no"
    [.str sourceEntry.interfaceName, .u32 sourceEntry.swIfIndex,
      .str destinationEntry.interfaceName,
      .u32 destinationEntry.swIfIndex, .str (boySpanStateDevice state)]
  unlessZero (boySetSpanEntry sourceEntry.swIfIndex destinationEntry.swIfIndex state false)
  boyLog .info "SPAN entry configured successfully" []

/-- Behind the dump. -/
def checkedSpan (interfaces : List BoyInterfaceEntry) (sourceIfIndex : UInt32)
    (destinationMemifName : CString) (deviceMode : BoySpanDeviceMode) : Attempt Unit :=
  match boyFindInterfaceEntryByIndex interfaces sourceIfIndex with
  | none => logThenCleanup "source interface if-index=%u not found" [.u32 sourceIfIndex]
  | some sourceEntry =>
    match boyFindInterfaceEntryByName interfaces destinationMemifName with
    | none => logThenCleanup "destination interface '%s' not found" [.str destinationMemifName]
    | some destinationEntry =>
      if ¬ namesMemif destinationEntry.interfaceName then
        logThenCleanup "destination interface '%s' is not a memif"
          [.str destinationEntry.interfaceName]
      else if sourceEntry.swIfIndex = destinationEntry.swIfIndex then
        logThenCleanup "source and destination interfaces must be different" []
      else
        configureSpan sourceEntry destinationEntry deviceMode

def setSpanBody (sourceIfIndex : UInt32) (destinationMemifName : CString)
    (deviceMode : BoySpanDeviceMode) : Attempt Unit := do
  let interfaces ← orCleanup (boyCollectInterfaces .empty)
  checkedSpan interfaces.entries sourceIfIndex destinationMemifName deviceMode

def boySetSpan (sourceIfIndex : UInt32) (destinationMemifName : CString)
    (deviceMode : BoySpanDeviceMode) : Boy Int :=
  withVapi "setting SPAN entry via libvapi"
    (setSpanBody sourceIfIndex destinationMemifName deviceMode)

end BeastieBoy
