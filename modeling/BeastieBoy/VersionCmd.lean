import BeastieBoy.SpanCmd

/-!
# The version of VPP

`commands/version_cmd.c`.
-/

namespace BeastieBoy

open CLib Interact

/-- `boy_vpp_version_result_t`, once a reply was received. -/
structure BoyVppVersionResult where
  retval : Int
  program : CString
  version : CString
  buildDate : CString
  buildDirectory : CString

/-- The reply is followed without a test. -/
def boyShowVersionCb (rv : VapiError) (reply : Option ShowVersionReply) :
    Boy (VapiError × Option BoyVppVersionResult) :=
  if rv ≠ .ok then pure (rv, none)
  else
    match reply with
    | some reply => pure (.ok, some {
        retval := reply.retval
        program := snprintf 33 (textOf reply.program)
        version := snprintf 33 (textOf reply.version)
        buildDate := snprintf 33 (textOf reply.buildDate)
        buildDirectory := snprintf 257 (textOf reply.buildDirectory) })
    | none => stuck

def reportVersion (result : BoyVppVersionResult) : Attempt Unit :=
  if result.retval ≠ 0 then
    logThenCleanup "show_version reply returned retval=%d" [.int result.retval]
  else do
    boyLog .info "program: %s" [.str result.program]
    boyLog .info "version: %s" [.str result.version]
    boyLog .debug "build date: %s" [.str result.buildDate]
    boyLog .debug "build directory: %s" [.str result.buildDirectory]

def showVersionBody : Attempt Unit := do
  let allocated : Bool ← boyCall (.vapiAlloc "show_version")
  if allocated then
    let answer : VapiReturn ShowVersionReply ← boyCall .showVersion
    let result ← runReturnCb boyShowVersionCb answer
    if result.1 ≠ .ok then
      logThenCleanup "vapi_show_version failed: %s" [.str (boyVapiErrorStr result.1)]
    else
      match result.2 with
      | none => logThenCleanup "show_version returned no reply" []
      | some version => reportVersion version
  else
    logThenCleanup "vapi_alloc_show_version failed" []

def boyShowVersion : Boy Int := withVapi "connecting to VPP via libvapi" showVersionBody

end BeastieBoy
