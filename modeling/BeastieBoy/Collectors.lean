import BeastieBoy.CLib.Text
import BeastieBoy.Vapi

/-!
# The collectors

`collectors.c`: the tables `boy` fills from VPP's dumps, and what it reads off
their entries. A table's `count` is the length of its list of entries.
-/

namespace BeastieBoy

open CLib Interact

structure BoyInterfaceEntry where
  swIfIndex : UInt32
  interfaceName : CString
  type : IfType
  interfaceDevType : CString
  flags : UInt32
  linkSpeed : UInt32
  ethernetAddress : CString
  cardFamily : CString
  deriving DecidableEq

structure BoySpanEntry where
  swIfIndexFrom : UInt32
  swIfIndexTo : UInt32
  state : SpanState
  isL2 : Bool
  deriving DecidableEq

structure BoyMemifEntry where
  interfaceName : CString
  socketId : UInt32
  flags : CString
  deriving DecidableEq

/-- A table of entries, and how many it has room for. -/
structure BoyTable (Entry : Type) where
  entries : List Entry
  capacity : Nat

def BoyTable.empty {Entry : Type} : BoyTable Entry := ⟨[], 0⟩

abbrev BoyInterfaceTable := BoyTable BoyInterfaceEntry

abbrev BoySpanTable := BoyTable BoySpanEntry

abbrev BoyMemifTable := BoyTable BoyMemifEntry

/-! ## Room for one more -/

/-- The `while` loop that doubles a 64-bit capacity; `none` when it never ends.
After 64 turns every bit of it has been shifted out. -/
def doubleUntil (requiredCount : Nat) : Nat → Nat → Option Nat
  | 0, _ => none
  | turns + 1, newCapacity =>
    if newCapacity < requiredCount then doubleUntil requiredCount turns (newCapacity * 2 % 2 ^ 64)
    else some newCapacity

/-- The body of `boy_reserve_entries` and `app_table_reserve_rows`: the return
value, and the capacity. -/
def reserve (capacity itemSize requiredCount : Nat) : Boy (Int × Nat) :=
  if capacity ≥ requiredCount then
    pure (0, capacity)
  else
    match doubleUntil requiredCount 65 (if capacity = 0 then 8 else capacity * 2 % 2 ^ 64) with
    | none => stuck
    | some newCapacity => do
      let granted : Bool ← boyCall (.realloc (newCapacity * itemSize % 2 ^ 64))
      if granted then pure (0, newCapacity) else pure (-1, capacity)

def boyReserveEntries (capacity itemSize requiredCount : Nat) : Boy (Int × Nat) :=
  reserve capacity itemSize requiredCount

/-! ## The callbacks -/

/-- The common body of the dump callbacks. -/
def boyDumpCb {Details Entry : Type} (itemSize : Nat) (entry : Details → Entry)
    (table : BoyTable Entry) (cb : DumpCallback Details) : Boy (VapiError × BoyTable Entry) :=
  if cb.rv ≠ .ok then
    pure (cb.rv, table)
  else
    match cb.isLast, cb.reply with
    | false, some reply => do
      let reserved ← boyReserveEntries table.capacity itemSize (table.entries.length + 1)
      if reserved.1 ≠ 0 then pure (.enomem, table)
      else pure (.ok, ⟨table.entries ++ [entry reply], reserved.2⟩)
    | _, _ => pure (.ok, table)

/-- `%02x`. -/
def formatHex2 (b : UInt8) : CString :=
  [Nat.digitChar (b.toNat / 16), Nat.digitChar (b.toNat % 16)]

def interfaceEntry (reply : SwInterfaceDetails) : BoyInterfaceEntry where
  swIfIndex := reply.swIfIndex
  type := reply.type
  flags := reply.flags
  linkSpeed := reply.linkSpeed
  interfaceName := boyCopyApiString 65 reply.interfaceName
  interfaceDevType := boyCopyApiString 65 reply.interfaceDevType
  cardFamily := boyCopyApiString 65 reply.interfaceDevType
  ethernetAddress := List.intercalate [':'] (reply.l2Address.toList.map formatHex2)

def spanEntry (reply : SwInterfaceSpanDetails) : BoySpanEntry where
  swIfIndexFrom := reply.swIfIndexFrom
  swIfIndexTo := reply.swIfIndexTo
  state := reply.state
  isL2 := reply.isL2

def boyMemifFlagsToString (flags : UInt32) (bufferSize : Nat) : CString :=
  let adminUp := flags &&& ifStatusApiFlagAdminUp ≠ 0
  let linkUp := flags &&& ifStatusApiFlagLinkUp ≠ 0
  if adminUp ∧ linkUp then snprintf bufferSize "admin-up,link-up".toList
  else if adminUp then snprintf bufferSize "admin-up".toList
  else if linkUp then snprintf bufferSize "link-up".toList
  else snprintf bufferSize "none".toList

def memifEntry (reply : MemifDetails) : BoyMemifEntry where
  interfaceName := boyCopyApiString 65 reply.ifName
  socketId := reply.socketId
  flags := boyMemifFlagsToString reply.flags 32

def sizeofBoyInterfaceEntry : Nat := 236

def sizeofBoySpanEntry : Nat := 16

def sizeofBoyMemifEntry : Nat := 104

def boySwInterfaceDumpCb := boyDumpCb sizeofBoyInterfaceEntry interfaceEntry

def boySpanDumpCb := boyDumpCb sizeofBoySpanEntry spanEntry

def boyMemifDumpCb := boyDumpCb sizeofBoyMemifEntry memifEntry

/-! ## The dumps -/

/-- The callbacks of a dump: the first value other than `VAPI_OK`. -/
def runDumpCallbacks {Details Entry : Type}
    (cb : BoyTable Entry → DumpCallback Details → Boy (VapiError × BoyTable Entry)) :
    List (DumpCallback Details) → BoyTable Entry → Boy (VapiError × BoyTable Entry)
  | [], table => pure (.ok, table)
  | next :: rest, table => do
    let result ← cb table next
    if result.1 ≠ .ok then pure result else runDumpCallbacks cb rest result.2

/-- The common body of the collectors: the return value, and the table. -/
def boyCollect {Details Entry : Type} (message : String) (send : Boy (VapiDump Details))
    (cb : BoyTable Entry → DumpCallback Details → Boy (VapiError × BoyTable Entry))
    (table : BoyTable Entry) : Boy (Int × BoyTable Entry) := do
  let allocated : Bool ← boyCall (.vapiAlloc message)
  if allocated then
    let dump ← send
    let result ← runDumpCallbacks cb dump.callbacks table
    let err := if result.1 ≠ .ok then result.1 else dump.err
    if err ≠ .ok then
      boyLog .error ("vapi_" ++ message ++ " failed: %s") [.str (boyVapiErrorStr err)]
      pure (1, result.2)
    else
      pure (0, result.2)
  else
    boyLog .error ("vapi_alloc_" ++ message ++ " failed") []
    pure (1, table)

def boyCollectInterfaces (table : BoyInterfaceTable) : Boy (Int × BoyInterfaceTable) :=
  boyCollect "sw_interface_dump" (boyCall .swInterfaceDump) boySwInterfaceDumpCb table

def boyCollectSpan (isL2 : Bool) (table : BoySpanTable) : Boy (Int × BoySpanTable) :=
  boyCollect "sw_interface_span_dump" (boyCall (.swInterfaceSpanDump isL2)) boySpanDumpCb table

def boyCollectMemif (table : BoyMemifTable) : Boy (Int × BoyMemifTable) :=
  boyCollect "memif_dump" (boyCall .memifDump) boyMemifDumpCb table

/-! ## Reading the entries -/

def boyFindInterfaceName (table : List BoyInterfaceEntry) (swIfIndex : UInt32) : CString :=
  match table.find? (·.swIfIndex = swIfIndex) with
  | some entry => entry.interfaceName
  | none => "<unknown>".toList

def boyIfTypeToString : IfType → CString
  | .hardware => "hardware".toList
  | .sub => "sub".toList
  | .p2p => "p2p".toList
  | .pipe => "pipe".toList
  | .other _ => "unknown".toList

/-- `strncmp(name, "memif", 5) == 0`. -/
def namesMemif (name : CString) : Bool := name.take 5 = "memif".toList

def boyIsSpanSourceCandidate (entry : BoyInterfaceEntry) : Bool :=
  let isHardware := entry.type = .hardware
  let isVlanSubif := entry.type = .sub ∧ '.' ∈ entry.interfaceName
  if ¬ isHardware ∧ ¬ isVlanSubif then false
  else if entry.interfaceName = "local0".toList then false
  else if namesMemif entry.interfaceName then false
  else true

def boyIsPhysicalInterface (entry : BoyInterfaceEntry) : Bool :=
  if entry.type ≠ .hardware then false
  else if entry.interfaceName = "local0".toList then false
  else if namesMemif entry.interfaceName then false
  else true

def boySpanStateDevice : SpanState → CString
  | .rx => "rx".toList
  | .tx => "tx".toList
  | .rxTx => "both".toList
  | .disabled => "none".toList
  | .other _ => "none".toList

def boySpanStateL2 (state : SpanState) (isL2 : Bool) : CString :=
  if isL2 then boySpanStateDevice state else "*".toList

end BeastieBoy
