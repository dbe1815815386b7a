import BeastieBoy.Common
import BeastieBoy.Interact.Prog
import BeastieBoy.Table

/-!
# The client of VPP

The messages `boy` exchanges with VPP through libvapi, everything else it asks
of its surroundings, and `vpp_client.c`.

Of libvapi this assumes that a dump runs its callback once for each message, in
order, and that the first value other than `VAPI_OK` it returns ends the dump
and is returned.
-/

namespace BeastieBoy

open CLib Interact

/-- `vapi_error_e`. -/
inductive VapiError where
  | ok
  | einval
  | eagain
  | enotsup
  | enomem
  | enoresp
  | emapFail
  | econFail
  | eincompatible
  | mutexFailure
  | euser
  | enotsock
  | eacces
  | econnreset
  | esockFailure
  | other (code : Int)
  deriving DecidableEq

def boyVapiErrorStr : VapiError → CString
  | .ok => "success".toList
  | .einval => "invalid argument".toList
  | .eagain => "operation would block".toList
  | .enotsup => "operation not supported".toList
  | .enomem => "out of memory".toList
  | .enoresp => "no response".toList
  | .emapFail => "api mapping failure".toList
  | .econFail => "connection to VPP failed".toList
  | .eincompatible => "incompatible VPP API".toList
  | .mutexFailure => "mutex failure".toList
  | .euser => "user error".toList
  | .enotsock => "socket is not valid".toList
  | .eacces => "socket permission denied".toList
  | .econnreset => "connection reset by peer".toList
  | .esockFailure => "socket failure".toList
  | .other _ => "unknown vapi error".toList

/-! ## The messages -/

/-- A `u8[64]` field. Its text ends at the first NUL, or with the field. -/
structure ApiString where
  bytes : List Char
  length_eq : bytes.length = 64
  deriving DecidableEq

/-- The field VPP fills from a name. -/
def ApiString.of (name : CString) : ApiString :=
  ⟨(name ++ List.replicate 64 '\x00').take 64, by simp⟩

inductive IfType where
  | hardware
  | sub
  | p2p
  | pipe
  | other (code : UInt32)
  deriving DecidableEq

inductive SpanState where
  | disabled
  | rx
  | tx
  | rxTx
  | other (code : UInt32)
  deriving DecidableEq

/-- `vapi_payload_sw_interface_details`. -/
structure SwInterfaceDetails where
  swIfIndex : UInt32
  type : IfType
  flags : UInt32
  linkSpeed : UInt32
  interfaceName : ApiString
  interfaceDevType : ApiString
  l2Address : Vector UInt8 6
  deriving DecidableEq

/-- `vapi_payload_sw_interface_span_details`. -/
structure SwInterfaceSpanDetails where
  swIfIndexFrom : UInt32
  swIfIndexTo : UInt32
  state : SpanState
  isL2 : Bool
  deriving DecidableEq

/-- `vapi_payload_memif_details`. -/
structure MemifDetails where
  ifName : ApiString
  socketId : UInt32
  flags : UInt32
  deriving DecidableEq

inductive MemifRole where
  | master
  | slave
  deriving DecidableEq

inductive MemifMode where
  | ethernet
  | ip
  | puntInject
  deriving DecidableEq

/-- `vapi_payload_memif_create`, as far as it is not left at zero. -/
structure MemifCreate where
  role : MemifRole
  mode : MemifMode
  rxQueues : UInt8
  txQueues : UInt8
  id : UInt32
  socketId : UInt32
  ringSize : UInt32
  bufferSize : UInt16
  noZeroCopy : Bool
  deriving DecidableEq

structure MemifCreateReply where
  retval : Int
  swIfIndex : UInt32
  deriving DecidableEq

/-- `vapi_payload_cli_inband_reply`: the bytes of its `reply`. -/
structure CliInbandReply where
  retval : Int
  reply : List Char
  deriving DecidableEq

/-- `vapi_payload_show_version_reply`: the bytes of its fields. -/
structure ShowVersionReply where
  retval : Int
  program : List Char
  version : List Char
  buildDate : List Char
  buildDirectory : List Char
  deriving DecidableEq

def ifStatusApiFlagAdminUp : UInt32 := 1

def ifStatusApiFlagLinkUp : UInt32 := 2

/-- One run of a dump's callback. -/
structure DumpCallback (Details : Type) where
  rv : VapiError
  isLast : Bool
  reply : Option Details

/-- What a dump brings: the callbacks to run, and its own result. -/
structure VapiDump (Details : Type) where
  callbacks : List (DumpCallback Details)
  err : VapiError

/-- What a simple request brings. `silent err` ran no callback; a reply is its
`retval`, if it is there at all. -/
inductive VapiAnswer where
  | silent (err : VapiError)
  | replied (rv : VapiError) (reply : Option Int)
  deriving DecidableEq

/-- What any other request brings. `silent err` ran no callback. -/
inductive VapiReturn (Payload : Type) where
  | silent (err : VapiError)
  | replied (rv : VapiError) (reply : Option Payload)
  deriving DecidableEq

inductive BoyLogArg where
  | str (s : CString)
  | u32 (n : UInt32)
  | int (n : Int)
  | size (n : Nat)
  deriving DecidableEq

/-- What `boy` asks of its surroundings. `stuck` is where it goes no further: a
loop that never ends, or a `NULL` that is followed. `appTableRender` prints, if
`widths` says that `app_table_render` got its memory. -/
inductive BoyCall where
  | vapiCtxAlloc
  | vapiConnect (name : CString)
  | vapiDisconnect
  | vapiCtxFree
  | vapiAlloc (message : String)
  | swInterfaceDump
  | swInterfaceSpanDump (isL2 : Bool)
  | swInterfaceSetFlags (swIfIndex flags : UInt32)
  | swInterfaceSpanEnableDisable (swIfIndexFrom swIfIndexTo : UInt32) (state : SpanState)
      (isL2 : Bool)
  | memifDump
  | memifCreate (payload : MemifCreate)
  | cliInband (cmd : CString)
  | showVersion
  | malloc (size : Nat)
  | calloc (count size : Nat)
  | realloc (size : Nat)
  | stuck
  | boyLogStart (operation : String)
  | boyLog (level : AppLogLevel) (format : String) (args : List BoyLogArg)
  | appTableRender (table : AppTable) (widths : Bool)
  | appPrintVersion (appName : String)

/-- An allocation replies whether it was granted. -/
abbrev BoyReply : BoyCall → Type
  | .vapiCtxAlloc => VapiError
  | .vapiConnect _ => VapiError
  | .vapiAlloc _ => Bool
  | .swInterfaceDump => VapiDump SwInterfaceDetails
  | .swInterfaceSpanDump _ => VapiDump SwInterfaceSpanDetails
  | .swInterfaceSetFlags .. => VapiAnswer
  | .swInterfaceSpanEnableDisable .. => VapiAnswer
  | .memifDump => VapiDump MemifDetails
  | .memifCreate _ => VapiReturn MemifCreateReply
  | .cliInband _ => VapiReturn CliInbandReply
  | .showVersion => VapiReturn ShowVersionReply
  | .malloc _ => Bool
  | .calloc .. => Bool
  | .realloc _ => Bool
  | .stuck => Empty
  | _ => Unit

abbrev Boy := Prog BoyCall BoyReply

abbrev BoyEvent := Event BoyReply

abbrev boyCall (c : BoyCall) : Boy (BoyReply c) := Prog.request c

def boyLog (level : AppLogLevel) (format : String) (args : List BoyLogArg) : Boy Unit :=
  boyCall (.boyLog level format args)

def stuck {α : Type} : Boy α := .call .stuck nofun

/-! ## `vpp_client.c` -/

/-- The return value, and whether the context is set. -/
def boyOpenVapi : Boy (Int × Bool) := do
  let err : VapiError ← boyCall .vapiCtxAlloc
  if err ≠ .ok then
    boyLog .error "vapi_ctx_alloc failed: %s" [.str (boyVapiErrorStr err)]
    pure (1, false)
  else
    let err : VapiError ← boyCall (.vapiConnect "boy".toList)
    if err ≠ .ok then
      boyLog .error "vapi_connect failed: %s" [.str (boyVapiErrorStr err)]
      boyCall .vapiCtxFree
      pure (1, false)
    else
      pure (0, true)

def boyCloseVapi (ctx : Bool) : Boy Unit :=
  if ctx then do
    boyCall .vapiDisconnect
    boyCall .vapiCtxFree
  else
    pure ()

/-- `boy_simple_reply_result_t`: the `retval`, once a reply was received. -/
abbrev BoySimpleReplyResult := Option Int

def runSimpleCb (cb : VapiError → Option Int → Boy (VapiError × BoySimpleReplyResult)) :
    VapiAnswer → Boy (VapiError × BoySimpleReplyResult)
  | .silent err => pure (err, none)
  | .replied rv reply => cb rv reply

/-- The body of `boy_set_interface_admin_up` and `boy_set_span_entry`: allocate
the message, send it, and look at the result. The last three arguments report a
request that failed, that got no reply, and that was refused. -/
def boySimpleRequest (message : String) (send : Boy VapiAnswer)
    (cb : VapiError → Option Int → Boy (VapiError × BoySimpleReplyResult))
    (failed : VapiError → Boy Unit) (noReply : Boy Unit) (refused : Int → Boy Unit) : Boy Int := do
  let allocated : Bool ← boyCall (.vapiAlloc message)
  if allocated then
    let answer ← send
    let result ← runSimpleCb cb answer
    if result.1 ≠ .ok then
      failed result.1
      pure 1
    else
      match result.2 with
      | none => do
        noReply
        pure 1
      | some retval =>
        if retval ≠ 0 then do
          refused retval
          pure 1
        else
          pure 0
  else
    boyLog .error ("vapi_alloc_" ++ message ++ " failed") []
    pure 1

def runReturnCb {Payload Result : Type}
    (cb : VapiError → Option Payload → Boy (VapiError × Option Result)) :
    VapiReturn Payload → Boy (VapiError × Option Result)
  | .silent err => pure (err, none)
  | .replied rv reply => cb rv reply

def boySwInterfaceSetFlagsCb (rv : VapiError) (reply : Option Int) :
    Boy (VapiError × BoySimpleReplyResult) :=
  if rv ≠ .ok then pure (rv, none) else pure (.ok, reply)

def boySetInterfaceAdminUp (swIfIndex : UInt32) : Boy Int :=
  boySimpleRequest "sw_interface_set_flags"
    (boyCall (.swInterfaceSetFlags swIfIndex ifStatusApiFlagAdminUp)) boySwInterfaceSetFlagsCb
    (fun err => boyLog .error "vapi_sw_interface_set_flags failed for sw_if_index=%u: %s"
      [.u32 swIfIndex, .str (boyVapiErrorStr err)])
    (boyLog .error "sw_interface_set_flags returned no reply for sw_if_index=%u" [.u32 swIfIndex])
    (fun retval => boyLog .error "sw_interface_set_flags retval=%d for sw_if_index=%u"
      [.int retval, .u32 swIfIndex])

/-- The text in front of the first NUL. -/
def textOf (bytes : List Char) : CString := bytes.takeWhile (· ≠ '\x00')

/-- The length is that of the text, and leaves room for the NUL. -/
def boyCopyApiString (dstSize : Nat) (src : ApiString) : CString :=
  let len := (src.bytes.takeWhile (· ≠ '\x00')).length
  src.bytes.take (if len ≥ dstSize then dstSize - 1 else len)

/-- The copy and its NUL are within the destination. -/
theorem boyCopyApiString_length_lt {dstSize : Nat} (room : 0 < dstSize) (src : ApiString) :
    (boyCopyApiString dstSize src).length < dstSize := by
  have taken := List.length_take_le
    (if (src.bytes.takeWhile (· ≠ '\x00')).length ≥ dstSize then dstSize - 1
      else (src.bytes.takeWhile (· ≠ '\x00')).length) src.bytes
  refine Nat.lt_of_le_of_lt taken ?_
  split
  · omega
  · omega

end BeastieBoy
