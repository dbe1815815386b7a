import BeastieBoy.SpanCmd

/-!
# The memif commands

`commands/memif_cmd.c`.
-/

namespace BeastieBoy

open CLib Interact

/-- `boy_memif_create_options_t`. -/
structure BoyMemifCreateOptions where
  id : UInt32
  socketId : UInt32
  ringSize : UInt32
  bufferSize : UInt32
  deriving DecidableEq

def boyDefaultMemifId : UInt32 := 0

def boyDefaultMemifSocketId : UInt32 := 0

def boyDefaultMemifRingSize : UInt32 := 1024

def boyDefaultMemifBufferSize : UInt32 := 2048

/-! ## `boy_show_memif` -/

def memifRow (entry : BoyMemifEntry) : List (Option CString) :=
  [some entry.interfaceName, some (snprintf 16 (formatU entry.socketId)), some entry.flags]

def boyAddMemifRow (table : AppTable) (entry : BoyMemifEntry) : Boy (Int × AppTable) :=
  appTableAddRow table (memifRow entry)

def memifColumns : List AppTableColumn := [
  ⟨some "Interface Name".toList, 14, 0, true, .left⟩,
  ⟨some "Socket-ID".toList, 9, 12, false, .right⟩,
  ⟨some "Flags".toList, 5, 0, true, .left⟩]

def showMemifTable : Attempt AppTable :=
  OptionT.mk do
    match ← appTableInit memifColumns with
    | none =>
      boyLog .error "failed to initialize table for memif output" []
      pure none
    | some table => pure (some table)

def showMemifRow (table : AppTable) (entry : BoyMemifEntry) : Attempt AppTable :=
  OptionT.mk do
    let added ← boyAddMemifRow table entry
    if added.1 ≠ 0 then
      boyLog .error "failed to append memif table row" []
      pure none
    else
      pure (some added.2)

/-- The `for` loop. -/
def showMemifEntries : List BoyMemifEntry → AppTable → Attempt AppTable
  | [], table => pure table
  | entry :: rest, table => do
    let table ← showMemifRow table entry
    showMemifEntries rest table

def showMemifBody : Attempt Unit := do
  let entries ← orCleanup (boyCollectMemif .empty)
  let table ← showMemifTable
  let table ← showMemifEntries entries.entries table
  runAppTableRender table

def boyShowMemif : Boy Int := withVapi "querying memif state via libvapi" showMemifBody

/-! ## `boy_create_memif` -/

/-- `boy_memif_create_result_t`, once a reply was received: `retval` and
`sw_if_index`. The reply is followed without a test. -/
def boyMemifCreateCb (rv : VapiError) (reply : Option MemifCreateReply) :
    Boy (VapiError × Option (Int × UInt32)) :=
  if rv ≠ .ok then pure (rv, none)
  else
    match reply with
    | some reply => pure (.ok, some (reply.retval, reply.swIfIndex))
    | none => stuck

/-- The fields of the message; `buffer_size` has 16 bits. -/
def memifCreatePayload (options : BoyMemifCreateOptions) : MemifCreate where
  role := .master
  mode := .ethernet
  rxQueues := 1
  txQueues := 1
  id := options.id
  socketId := options.socketId
  ringSize := options.ringSize
  bufferSize := options.bufferSize.toUInt16
  noZeroCopy := false

/-- Behind the reply. -/
def memifCreated (options : BoyMemifCreateOptions) (swIfIndex : UInt32) : Attempt Unit := do
  let rc ← boySetInterfaceAdminUp swIfIndex
  if rc ≠ 0 then
    logThenCleanup "memif created but failed to set admin-up: sw_if_index=%u" [.u32 swIfIndex]
  else
    boyLog .info
      "created memif and set admin-up: id=%u socket-id=%u ring-size=%u buffer-size=%u sw_if_index=%u"
      [.u32 options.id, .u32 options.socketId, .u32 options.ringSize, .u32 options.bufferSize,
        .u32 swIfIndex]

/-- Behind the allocation. -/
def memifCreateSent (options : BoyMemifCreateOptions) : Attempt Unit := do
  let answer : VapiReturn MemifCreateReply ← boyCall (.memifCreate (memifCreatePayload options))
  let result ← runReturnCb boyMemifCreateCb answer
  if result.1 ≠ .ok then
    logThenCleanup "vapi_memif_create failed: %s" [.str (boyVapiErrorStr result.1)]
  else
    match result.2 with
    | none => logThenCleanup "memif_create returned no reply" []
    | some (retval, swIfIndex) =>
      if retval ≠ 0 then logThenCleanup "memif_create retval=%d" [.int retval]
      else memifCreated options swIfIndex

def createMemifBody (options : BoyMemifCreateOptions) : Attempt Unit := do
  let allocated : Bool ← boyCall (.vapiAlloc "memif_create")
  if allocated then memifCreateSent options
  else logThenCleanup "vapi_alloc_memif_create failed" []

def boyCreateMemif (options : BoyMemifCreateOptions) : Boy Int :=
  withVapi "creating memif via libvapi" (createMemifBody options)

end BeastieBoy
