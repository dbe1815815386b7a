import BeastieBoy.SpanCmd

/-!
# The physical interfaces

`commands/phy_cmd.c`. A pointer into the interface table is an index.
-/

namespace BeastieBoy

open CLib Interact

/-- `boy_find_interface_mut_by_name`. -/
def boyFindInterfaceMutByName (table : List BoyInterfaceEntry) (name : CString) : Option Nat :=
  table.findIdx? (·.interfaceName = name)

/-! ## The output of `show hardware-interfaces` -/

/-- `boy_cli_inband_result_t`, once a reply was received: its `retval` and the
bytes of its text, which a NUL follows. -/
abbrev BoyCliInbandResult := Option (Int × List Char)

def boyCliInbandCb (rv : VapiError) (reply : Option CliInbandReply) :
    Boy (VapiError × BoyCliInbandResult) :=
  if rv ≠ .ok then pure (rv, none)
  else
    match reply with
    | none => pure (.ok, none)
    | some reply => do
      let granted : Bool ← boyCall (.malloc (reply.reply.length + 1))
      if granted then pure (.ok, some (reply.retval, reply.reply)) else pure (.enomem, none)

/-- The return value, and `*output`. -/
def boyFetchShowHardwareOutput : Boy (Int × Option CString) := do
  let allocated : Bool ← boyCall (.vapiAlloc "cli_inband")
  if allocated then
    let answer : VapiReturn CliInbandReply ← boyCall (.cliInband "show hardware-interfaces".toList)
    let result ← runReturnCb boyCliInbandCb answer
    if result.1 ≠ .ok then
      boyLog .error "vapi_cli_inband failed: %s" [.str (boyVapiErrorStr result.1)]
      pure (1, none)
    else
      match result.2 with
      | none =>
        boyLog .error "cli_inband returned no reply" []
        pure (1, none)
      | some (retval, reply) =>
        if retval ≠ 0 then
          boyLog .warning "cli_inband show hardware-interfaces retval=%d" [.int retval]
          pure (1, none)
        else
          pure (0, some (textOf reply))
  else
    boyLog .error "vapi_alloc_cli_inband failed" []
    pure (1, none)

def isBlank (c : Char) : Bool := c = ' ' || c = '\t'

def boyRtrim (line : CString) : CString := line.rdropWhile fun c => isBlank c || c = '\r'

/-- `sscanf(line, "%64s %u %15s", if_name, &idx, link)`, when it returns 3. -/
def scanHeader (line : CString) : Option (CString × Nat × CString) := do
  let ifName ← scanString 64 line
  let idx ← scanUnsigned (scanSpace ifName.2)
  let link ← scanString 15 (scanSpace idx.2)
  pure (ifName.1, idx.1, link.1)

/-- The variables of the loop over the lines. -/
structure CardFamilyScan where
  interfaces : List BoyInterfaceEntry
  current : Option Nat
  expectFamily : Bool

/-- `current`, behind a line that is not indented. -/
def headerInterface (interfaces : List BoyInterfaceEntry) (line : CString) : Option Nat :=
  match scanHeader line with
  | some (ifName, _, _) =>
    match boyFindInterfaceMutByName interfaces ifName with
    | some i => if (interfaces[i]?.any boyIsPhysicalInterface) then some i else none
    | none => none
  | none => none

def addressPrefix : CString := "Ethernet address ".toList

def carrierPrefix : CString := "carrier ".toList

/-- `snprintf(current->card_family, 65, "%s", family)`. -/
def setCardFamily (interfaces : List BoyInterfaceEntry) (i : Nat) (family : CString) :
    List BoyInterfaceEntry :=
  interfaces.modify i fun entry => { entry with cardFamily := snprintf 65 family }

/-- A line in front of which nothing is skipped. -/
def isHeader (line : CString) : Bool := !line.head?.any isBlank

/-- `trimmed`. -/
def ltrim (line : CString) : CString := line.dropWhile isBlank

/-- The body of the loop, behind the test for a blank line. -/
def CardFamilyScan.step (s : CardFamilyScan) (line : CString) : CardFamilyScan :=
  if isHeader line then
    { s with current := headerInterface s.interfaces line, expectFamily := false }
  else
    match s.current with
    | none => s
    | some i =>
      if addressPrefix <+: ltrim line then { s with expectFamily := true }
      else if ¬ s.expectFamily then s
      else if ':' ∈ ltrim line ∨ carrierPrefix <+: ltrim line then { s with expectFamily := false }
      else { s with interfaces := setCardFamily s.interfaces i (ltrim line), expectFamily := false }

def CardFamilyScan.readLine (s : CardFamilyScan) (token : CString) : CardFamilyScan :=
  if ltrim (boyRtrim token) = [] then s else s.step (boyRtrim token)

def boyOverrideCardFamilyFromCliOutput (interfaces : List BoyInterfaceEntry)
    (cliOutput : Option CString) :
    Boy (List BoyInterfaceEntry) :=
  match cliOutput with
  | none => pure interfaces
  | some text =>
    if text = [] then pure interfaces
    else do
      let granted : Bool ← boyCall (.malloc (text.length + 1))
      if granted then
        pure ((tokens '\n' text).foldl CardFamilyScan.readLine ⟨interfaces, none, false⟩).interfaces
      else pure interfaces

/-! ## `boy_show_phy` -/

def boyPhyLinkState (flags : UInt32) : CString :=
  if flags &&& ifStatusApiFlagLinkUp ≠ 0 then "up".toList else "down".toList

def boyPhySpeedToString (linkSpeed : UInt32) (bufferSize : Nat) : CString :=
  if linkSpeed = 0 then snprintf bufferSize "unknown".toList
  else if linkSpeed % 1000 = 0 then
    snprintf bufferSize (formatU (linkSpeed / 1000) ++ "Gbps".toList)
  else snprintf bufferSize (formatU linkSpeed ++ "Mbps".toList)

def phyRow (entry : BoyInterfaceEntry) : List (Option CString) :=
  [some entry.interfaceName, some (snprintf 16 (formatU entry.swIfIndex)),
    some (boyPhyLinkState entry.flags), some (boyPhySpeedToString entry.linkSpeed 16),
    some entry.ethernetAddress, some entry.cardFamily]

def boyAddPhyRow (table : AppTable) (entry : BoyInterfaceEntry) : Boy (Int × AppTable) :=
  appTableAddRow table (phyRow entry)

def phyColumns : List AppTableColumn := [
  ⟨some "Interface Name".toList, 14, 0, true, .left⟩,
  ⟨some "If-Index".toList, 8, 10, false, .right⟩,
  ⟨some "Link".toList, 4, 8, false, .left⟩,
  ⟨some "Speed".toList, 5, 10, false, .left⟩,
  ⟨some "Ethernet Address".toList, 16, 17, false, .left⟩,
  ⟨some "Card Family".toList, 11, 0, true, .left⟩]

def showPhyTable : Attempt AppTable :=
  OptionT.mk do
    match ← appTableInit phyColumns with
    | none =>
      boyLog .error "failed to initialize table for physical interface output" []
      pure none
    | some table => pure (some table)

def showPhyRow (table : AppTable) (entry : BoyInterfaceEntry) : Attempt AppTable :=
  OptionT.mk do
    let added ← boyAddPhyRow table entry
    if added.1 ≠ 0 then
      boyLog .error "failed to append physical interface table row" []
      pure none
    else
      pure (some added.2)

/-- The `for` loop: the table, and `shown`. -/
def showPhyInterfaces : List BoyInterfaceEntry → AppTable → Nat → Attempt (AppTable × Nat)
  | [], table, shown => pure (table, shown)
  | entry :: rest, table, shown =>
    if ¬ boyIsPhysicalInterface entry then
      showPhyInterfaces rest table shown
    else do
      let table ← showPhyRow table entry
      showPhyInterfaces rest table ((shown + 1) % 2 ^ 64)

/-- The interfaces with the card families VPP's output names. -/
def cardFamilies (interfaces : List BoyInterfaceEntry) : Boy (List BoyInterfaceEntry) := do
  let fetched ← boyFetchShowHardwareOutput
  if fetched.1 = 0 then
    boyOverrideCardFamilyFromCliOutput interfaces fetched.2
  else
    boyLog .debug "using interface_dev_type as card family fallback" []
    pure interfaces

def showPhyBody : Attempt Unit := do
  let interfaces ← orCleanup (boyCollectInterfaces .empty)
  let entries ← cardFamilies interfaces.entries
  let table ← showPhyTable
  let shown ← showPhyInterfaces entries table 0
  runAppTableRender shown.1
  if shown.2 = 0 then
    boyLog .info "no physical interfaces found" []

def boyShowPhy : Boy Int := withVapi "querying physical interface state via libvapi" showPhyBody

end BeastieBoy
