import BeastieBoy.CLib.Text
import BeastieBoy.Common
import BeastieBoy.Interact.Local
import BeastieBoy.PcapWriter

/-!
# The capture

`commands/capture_cmd.c`: `beastie_run_capture` and its memif callbacks, as one
process that polls in a loop and that a signal can interrupt between any two of
its calls. The struct's counters are local to the process. `keep_running` is in
the world: the signal handler writes it too.

Of libmemif this assumes that a poll runs its callbacks one after the other and
returns the first non-zero value of an `on_interrupt`, that a failed
`memif_rx_burst` delivers no buffers, and that the path of a socket is an array of
108 bytes.
-/

namespace BeastieBoy

open CLib Interact Local

inductive MemifErr where
  | success
  | pollCancel
  | other (code : Int)
  deriving DecidableEq

/-- A `memif_buffer_t`. `next` is its `MEMIF_BUFFER_FLAG_NEXT`. -/
structure MemifBuffer where
  data : List UInt8
  next : Bool
  len_lt : data.length < 2 ^ 32
  deriving DecidableEq

def MemifBuffer.len (buf : MemifBuffer) : Nat := buf.data.length

inductive PrintArg where
  | str (s : CString)
  | u32 (n : Nat)
  | u64 (n : Nat)
  | percent (part whole : Nat)
  | strerror (err : MemifErr)
  deriving DecidableEq

structure BeastieCaptureConfig where
  outputFilename : Option CString
  maxCaptureBytes : Nat
  memifId : Nat
  memifSocketPath : Option CString
  max_lt : maxCaptureBytes < 2 ^ 64
  id_lt : memifId < 2 ^ 32

/-- What the command line starts from, with the limit given. -/
def defaultCapture (max : Nat) (max_lt : max < 2 ^ 64) : BeastieCaptureConfig where
  outputFilename := some "capture.pcap".toList
  maxCaptureBytes := max
  memifId := 0
  memifSocketPath := some "/run/vpp/memif.sock".toList
  max_lt := max_lt
  id_lt := by decide

/-- `beastie_capture_state_t` without `keep_running`. -/
structure BeastieCaptureState where
  pcapFilename : CString
  packetsCaptured : Nat
  bytesCaptured : Nat
  maxBytesToCapture : Nat
  bytesSinceLastFlush : Nat
  currentMemifId : Nat
  currentMemifSocketPath : CString

def memifLocalIfname : CString := "btie0".toList
def maxMemifBufs : Nat := 256
def progressBarWidth : Nat := 32
def pcapFlushIntervalBytes : Nat := 1024 * 1024
def beastieDefaultOutputFilename : CString := "capture.pcap".toList
def beastieDefaultMemifSocketPath : CString := "/run/vpp/memif.sock".toList

def orDefault (value : Option CString) (default : CString) : CString :=
  match value with
  | some (c :: s) => c :: s
  | _ => default

def beastieCaptureStateInit (config : BeastieCaptureConfig) : BeastieCaptureState where
  pcapFilename := orDefault config.outputFilename beastieDefaultOutputFilename
  packetsCaptured := 0
  bytesCaptured := 0
  maxBytesToCapture := config.maxCaptureBytes
  bytesSinceLastFlush := 0
  currentMemifId := config.memifId
  currentMemifSocketPath := orDefault config.memifSocketPath beastieDefaultMemifSocketPath

inductive MemifCallback where
  | connect
  | disconnect
  | interrupt (qid : Nat)
  deriving DecidableEq

/-- What a poll brings: the callbacks to run, and its own result. -/
structure MemifPoll where
  callbacks : List MemifCallback
  err : MemifErr

structure MemifBurst where
  err : MemifErr
  bufs : List MemifBuffer

/-- The error of a constructor call, and whether it set the handle. -/
structure MemifCreated where
  err : MemifErr
  handle : Bool

/-! ## The calls -/

/-- What the process asks of its surroundings. `memifPollEvent` is the start of
a poll, in `pollWait` it waits, and `pollReturn` is its end. -/
inductive CaptureCall where
  | keepRunning
  | stop
  | detach
  | memifCreateSocket (path appName : CString)
  | memifCreate (interfaceId : Nat) (interfaceName : CString)
  | memifPollEvent
  | pollWait
  | pollReturn (err : MemifErr)
  | memifRxBurst (qid count : Nat)
  | memifRefillQueue (qid count : Nat)
  | memifCancelPollEvent
  | memifDelete
  | memifDeleteSocket
  | writePcapPacket (filename : CString) (buf : MemifBuffer)
  | flushPcapWriter
  | closePcapWriter
  | beastieLog (level : AppLogLevel) (format : String) (args : List PrintArg)
  | printf (format : String) (args : List PrintArg)

abbrev CaptureReply : CaptureCall → Type
  | .keepRunning => Bool
  | .memifCreateSocket .. => MemifCreated
  | .memifCreate .. => MemifCreated
  | .pollWait => MemifPoll
  | .memifRxBurst .. => MemifBurst
  | .memifRefillQueue .. => MemifErr
  | .memifCancelPollEvent => MemifErr
  | .writePcapPacket .. => Int
  | .flushPcapWriter => Int
  | _ => Unit

abbrev CaptureM := Local BeastieCaptureState CaptureCall CaptureReply

abbrev call (c : CaptureCall) : CaptureM (CaptureReply c) := ask c

abbrev CaptureTrace := List (Act fun c : BeastieCaptureState × CaptureCall => CaptureReply c.2)

structure CaptureWorld where
  keepRunning : Bool
  /-- `active_capture_state` is set. -/
  active : Bool
  writer : PcapWriter

def handleSignal (w : CaptureWorld) : CaptureWorld :=
  if w.active then { w with keepRunning := false } else w

/-- What each call can do. The packet writer is the program's own; every other
call replies what it likes. -/
def captureServe : Server (BeastieCaptureState × CaptureCall)
    (fun c => CaptureReply c.2) CaptureWorld :=
  fun w c r w' =>
    match c, r with
    | (_, .keepRunning), r => r = w.keepRunning ∧ w' = w
    | (_, .stop), _ => w' = { w with keepRunning := false }
    | (_, .detach), _ => w' = { w with active := false }
    | (_, .memifRxBurst _ count), r =>
      (r.err ≠ .success → r.bufs = []) ∧ r.bufs.length ≤ count ∧ w' = w
    | (_, .writePcapPacket filename buf), r =>
      ∃ met, r = (writePcapPacket met filename buf.data w.writer).1 ∧
        w' = { w with writer := (writePcapPacket met filename buf.data w.writer).2 }
    | (_, .flushPcapWriter), r =>
      ∃ result, r = (flushPcapWriter result w.writer).1 ∧
        w' = { w with writer := (flushPcapWriter result w.writer).2 }
    | (_, .closePcapWriter), _ =>
      ∃ result, w' = { w with writer := closePcapWriter result w.writer }
    | _, _ => w' = w

abbrev captureEnv : Surroundings (BeastieCaptureState × CaptureCall)
    (fun c => CaptureReply c.2) CaptureWorld :=
  ⟨captureServe, handleSignal⟩

/-! ## The callbacks -/

def beastieLog (level : AppLogLevel) (format : String) (args : List PrintArg) : CaptureM Unit :=
  call (.beastieLog level format args)

/-- The product is 64 bits wide. -/
def progressFilled (state : BeastieCaptureState) : Nat :=
  if 0 < state.maxBytesToCapture then
    min (state.bytesCaptured * progressBarWidth % 2 ^ 64 / state.maxBytesToCapture) progressBarWidth
  else 0

def progressBar (state : BeastieCaptureState) : CString :=
  (List.range progressBarWidth).map fun i => if i < progressFilled state then '#' else '.'

def printCaptureProgress : CaptureM Unit := do
  let state ← vars
  if 0 < state.maxBytesToCapture then
    call (.printf "\r[%s] %lu/%lu bytes (%.1f%%), packets=%lu"
      [.str (progressBar state), .u64 state.bytesCaptured, .u64 state.maxBytesToCapture,
        .percent state.bytesCaptured state.maxBytesToCapture, .u64 state.packetsCaptured])
  else
    call (.printf "\r[%s] %lu bytes, packets=%lu"
      [.str (progressBar state), .u64 state.bytesCaptured, .u64 state.packetsCaptured])

def printCaptureSummary : CaptureM Unit := do
  printCaptureProgress
  call (.printf "\n" [])
  let state ← vars
  beastieLog .info "captured %lu bytes in %lu packets"
    [.u64 state.bytesCaptured, .u64 state.packetsCaptured]

def onConnect : CaptureM MemifErr := do
  let state ← vars
  beastieLog .debug "memif connected: role=slave mode=ethernet socket=%s interface=%s id=%u"
    [.str state.currentMemifSocketPath, .str memifLocalIfname, .u32 state.currentMemifId]
  let err : MemifErr ← call (.memifRefillQueue 0 (2 ^ 16 - 1))
  if err ≠ .success then
    beastieLog .error "memif_refill_queue: %s" [.strerror err]
    pure err
  else
    pure .success

def onDisconnect : CaptureM MemifErr := do
  beastieLog .info "memif disconnected" []
  call .memifCancelPollEvent

/-- The counters behind a packet that was written. -/
def countPacket (buf : MemifBuffer) (state : BeastieCaptureState) : BeastieCaptureState :=
  { state with
    packetsCaptured := (state.packetsCaptured + 1) % 2 ^ 64
    bytesCaptured := (state.bytesCaptured + buf.len) % 2 ^ 64
    bytesSinceLastFlush := (state.bytesSinceLastFlush + buf.len) % 2 ^ 64 }

/-- The `for` loop over a burst; `some err` is a `return err` inside it. -/
def onInterruptLoop : List MemifBuffer → CaptureM (Option MemifErr)
  | [] => pure none
  | buf :: bufs => do
    let state ← vars
    if 0 < state.maxBytesToCapture ∧
        state.maxBytesToCapture < (state.bytesCaptured + buf.len) % 2 ^ 64 then
      call .stop
      pure none
    else
      let result : Int ← call (.writePcapPacket state.pcapFilename buf)
      if result ≠ 0 then
        beastieLog .error "write_pcap_packet failed for output %s" [.str state.pcapFilename]
        call .stop
        pure (some (.other (-1)))
      else
        update (countPacket buf)
        let state ← vars
        if 0 < state.maxBytesToCapture ∧ state.maxBytesToCapture ≤ state.bytesCaptured then
          call .stop
          pure none
        else
          onInterruptLoop bufs

/-- The flush of a callback, when enough was written. -/
def onInterruptFlush : CaptureM (Option MemifErr) := do
  let state ← vars
  if pcapFlushIntervalBytes ≤ state.bytesSinceLastFlush then
    let result : Int ← call .flushPcapWriter
    if result ≠ 0 then
      beastieLog .error "flush_pcap_writer failed for output %s" [.str state.pcapFilename]
      call .stop
      pure (some (.other (-1)))
    else
      update fun state => { state with bytesSinceLastFlush := 0 }
      pure none
  else
    pure none

def onInterruptRefill (qid rx : Nat) : CaptureM MemifErr :=
  if 0 < rx then do
    let err : MemifErr ← call (.memifRefillQueue qid rx)
    if err ≠ .success then
      beastieLog .error "memif_refill_queue: %s" [.strerror err]
      pure err
    else
      pure .success
  else
    pure .success

/-- What `on_interrupt` does behind its loop. -/
def onInterruptEnd (qid rx : Nat) : CaptureM MemifErr := do
  whenever (0 < rx) printCaptureProgress
  match ← onInterruptFlush with
  | some err => pure err
  | none => onInterruptRefill qid rx

def onInterrupt (qid : Nat) : CaptureM MemifErr := do
  let burst : MemifBurst ← call (.memifRxBurst qid maxMemifBufs)
  if burst.err ≠ .success then
    beastieLog .error "memif_rx_burst: %s" [.strerror burst.err]
    pure burst.err
  else
    match ← onInterruptLoop burst.bufs with
    | some err => pure err
    | none => onInterruptEnd qid burst.bufs.length

/-! ## The main loop -/

/-- The callbacks of a poll: the first non-zero value of an `on_interrupt`. -/
def pollCallbacks : List MemifCallback → CaptureM (Option MemifErr)
  | [] => pure none
  | .connect :: rest => do
    let _ ← onConnect
    pollCallbacks rest
  | .disconnect :: rest => do
    let _ ← onDisconnect
    pollCallbacks rest
  | .interrupt qid :: rest => do
    let err ← onInterrupt qid
    if err ≠ .success then pure (some err) else pollCallbacks rest

def memifPollEvent : CaptureM MemifErr := do
  call .memifPollEvent
  let poll : MemifPoll ← call .pollWait
  let failed ← pollCallbacks poll.callbacks
  call (.pollReturn (failed.getD poll.err))
  pure (failed.getD poll.err)

structure CaptureHandles where
  socket : Bool
  conn : Bool

def captureCleanup (handles : CaptureHandles) : CaptureM Unit := do
  call .detach
  call .closePcapWriter
  whenever handles.conn (call .memifDelete)
  whenever handles.socket (call .memifDeleteSocket)

/-- The flush behind the loop: `rc`. -/
def captureFlush : CaptureM Int := do
  let state ← vars
  let result : Int ← call .flushPcapWriter
  if result ≠ 0 then
    beastieLog .error "flush_pcap_writer failed for output %s" [.str state.pcapFilename]
    pure 1
  else
    pure 0

def captureFinish (handles : CaptureHandles) : CaptureM Int := do
  let rc ← captureFlush
  printCaptureSummary
  captureCleanup handles
  pure rc

/-- `sizeof` of the `path` of a `memif_socket_args_t`. -/
def memifSocketPathSize : Nat := 108

/-- Up to the loop: the handles, and whether there was no `goto cleanup`. -/
def captureSetUp : CaptureM (CaptureHandles × Bool) := do
  let state ← vars
  let path := snprintf memifSocketPathSize state.currentMemifSocketPath
  let socket : MemifCreated ← call (.memifCreateSocket path "beastie".toList)
  if socket.err ≠ .success then
    beastieLog .error "memif_create_socket: %s" [.strerror socket.err]
    pure (⟨socket.handle, false⟩, false)
  else
    let conn : MemifCreated ← call (.memifCreate state.currentMemifId memifLocalIfname)
    if conn.err ≠ .success then
      beastieLog .error "memif_create: %s" [.strerror conn.err]
      pure (⟨socket.handle, conn.handle⟩, false)
    else
      beastieLog .info "beastie starting" []
      beastieLog .debug "memif config: role=slave mode=ethernet socket=%s interface=%s id=%u"
        [.str state.currentMemifSocketPath, .str memifLocalIfname, .u32 state.currentMemifId]
      beastieLog .info "capture output: %s" [.str state.pcapFilename]
      whenever (0 < state.maxBytesToCapture)
        (beastieLog .debug "capture limit: %lu bytes" [.u64 state.maxBytesToCapture])
      beastieLog .debug "memif id: %u" [.u32 state.currentMemifId]
      beastieLog .debug "memif socket: %s" [.str state.currentMemifSocketPath]
      beastieLog .info "waiting for packets on memif..." []
      pure (⟨socket.handle, conn.handle⟩, true)

/-- How one stretch of `beastie_run_capture` ends: at the loop test, or with `rc`. -/
abbrev CaptureTurn := Turn CaptureHandles Int

def captureStart : CaptureM CaptureTurn := do
  let made ← captureSetUp
  if made.2 then
    pure (.again made.1)
  else
    captureCleanup made.1
    pure (.exit 1)

/-- A poll that failed. -/
def captureAbort (handles : CaptureHandles) (err : MemifErr) : CaptureM Unit := do
  beastieLog .error "memif_poll_event: %s" [.strerror err]
  captureCleanup handles

def keepRunning : CaptureM Bool := call .keepRunning

/-- One pass of the `while` loop from its test. -/
def capturePass (handles : CaptureHandles) : CaptureM CaptureTurn := do
  let running ← keepRunning
  if running then
    let err ← memifPollEvent
    let running ← keepRunning
    if running then
      if err ≠ .success ∧ err ≠ .pollCancel then
        captureAbort handles err
        pure (.exit 1)
      else
        pure (.again handles)
    else
      let rc ← captureFinish handles
      pure (.exit rc)
  else
    let rc ← captureFinish handles
    pure (.exit rc)

/-- The program with its variables: where it goes on, or `rc` and what they are
at the end. -/
def withVars (m : CaptureM CaptureTurn) (state : BeastieCaptureState) :
    Prog (BeastieCaptureState × CaptureCall) (fun c => CaptureReply c.2)
      (Turn (CaptureHandles × BeastieCaptureState) (Int × BeastieCaptureState)) :=
  m state >>= fun x =>
    match x.1 with
    | .again handles => .done (.again (handles, x.2))
    | .exit rc => .done (.exit (rc, x.2))

abbrev CaptureConfiguration :=
  Config (BeastieCaptureState × CaptureCall) (fun c => CaptureReply c.2) CaptureWorld
    (CaptureHandles × BeastieCaptureState) (Int × BeastieCaptureState)

def captureBody (x : CaptureHandles × BeastieCaptureState) := withVars (capturePass x.1) x.2

/-- `beastie_run_capture` as it starts, on a file system that holds `files`. -/
def beastieRunCapture (config : BeastieCaptureConfig) (files : CString → FileContent) :
    CaptureConfiguration :=
  ⟨withVars captureStart (beastieCaptureStateInit config), ⟨true, true, .initial files⟩, []⟩

abbrev CaptureGuard :=
  Guard (BeastieCaptureState × CaptureCall) (fun c => CaptureReply c.2) CaptureWorld

/-- The states of the runs whose steps all meet the guard. -/
def CaptureRun (ok : CaptureGuard) (config : BeastieCaptureConfig) (files : CString → FileContent)
    (x : CaptureConfiguration) : Prop :=
  Run captureEnv captureBody ok (beastieRunCapture config files) x

end BeastieBoy
