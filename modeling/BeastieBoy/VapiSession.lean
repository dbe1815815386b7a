import BeastieBoy.CliOptions
import BeastieBoy.Interact.Phases

/-!
# One session with VPP

The order in which libvapi wants to be called: a context is allocated, connected,
disconnected and freed; each request needs the connection and a message that was
allocated for it, which the request gives away. Every run of `boy` keeps to this,
whatever the replies, makes only the requests its command line is about, and
leaves nothing open.
-/

namespace BeastieBoy

open CLib Interact Interact.Prog

inductive VapiPhase where
  | unopened
  | allocated
  | connected
  /-- Connected, with an allocated message that is not sent. -/
  | holding (message : String)
  | disconnected
  | closed
  /-- The connection failed, and the context is still there. -/
  | refused
  /-- There never was a connection, and there is no context. -/
  | unavailable
  deriving DecidableEq

/-- What needs no connection. -/
def BoyCall.isLocal : BoyCall → Bool
  | .malloc _ => true
  | .calloc .. => true
  | .realloc _ => true
  | .stuck => true
  | .boyLogStart _ => true
  | .boyLog .. => true
  | .appTableRender .. => true
  | .appPrintVersion _ => true
  | _ => false

/-- The message a request sends. -/
def BoyCall.message : BoyCall → Option String
  | .swInterfaceDump => some "sw_interface_dump"
  | .swInterfaceSpanDump _ => some "sw_interface_span_dump"
  | .swInterfaceSetFlags .. => some "sw_interface_set_flags"
  | .swInterfaceSpanEnableDisable .. => some "sw_interface_span_enable_disable"
  | .memifDump => some "memif_dump"
  | .memifCreate _ => some "memif_create"
  | .cliInband _ => some "cli_inband"
  | .showVersion => some "show_version"
  | _ => none

/-- A message must be sent at once. The requests are those that `may` be made. -/
def vapiNext (may : BoyCall → Bool) : VapiPhase → (c : BoyCall) → Option (BoyReply c → VapiPhase)
  | .holding message, c => if c.message = some message ∧
      may c then some fun _ => .connected else none
  | .unopened, .vapiCtxAlloc => some fun err => if err = .ok then .allocated else .unavailable
  | .allocated, .vapiConnect _ => some fun err => if err = .ok then .connected else .refused
  | .connected, .vapiAlloc message => some fun granted => if granted then .holding message else
      .connected
  | .connected, .vapiDisconnect => some fun _ => .disconnected
  | .disconnected, .vapiCtxFree => some fun _ => .closed
  | .refused, .vapiCtxFree => some fun _ => .unavailable
  | phase, c => if c.isLocal then some fun _ => phase else none

def vapiProtocol (may : BoyCall → Bool) : Protocol BoyCall BoyReply VapiPhase := ⟨vapiNext may⟩

/-- The requests of a command. -/
def boyMay (options : BoyCliOptions) (c : BoyCall) : Bool :=
  match options.mode, c with
  | .showVersion, .showVersion => true
  | .showSpan, .swInterfaceDump => true
  | .showSpan, .swInterfaceSpanDump _ => true
  | .showMemif, .memifDump => true
  | .showPhy, .swInterfaceDump => true
  | .showPhy, .cliInband cmd => cmd = "show hardware-interfaces".toList
  | .unsetSpan, .swInterfaceDump => true
  | .unsetSpan, .swInterfaceSpanDump _ => true
  | .unsetSpan, .swInterfaceSpanEnableDisable swIfIndexFrom _ state _ =>
    swIfIndexFrom = options.unsetSpanIfIndex ∧ state = .disabled
  | .setSpan, .swInterfaceDump => true
  | .setSpan, .swInterfaceSetFlags _ flags => flags = ifStatusApiFlagAdminUp
  | .setSpan, .swInterfaceSpanEnableDisable swIfIndexFrom _ state isL2 =>
    swIfIndexFrom = options.setSpanIfIndex ∧
      state = boySpanStateFromDeviceMode options.setSpanDeviceMode ∧ ¬ isL2
  | .createMemif, .memifCreate payload => payload = memifCreatePayload options.memifCreate
  | .createMemif, .swInterfaceSetFlags _ flags => flags = ifStatusApiFlagAdminUp
  | _, _ => false

/-- Without accepted options there are none. -/
def commandLineMay (posixlyCorrect : Bool) (argv : List CString) (c : BoyCall) : Bool :=
  match boyParseCliOptions posixlyCorrect argv with
  | .ok options => boyMay options c
  | .error _ => false

variable {may : BoyCall → Bool}

/-! ## What the protocol balances -/

def contextGiven : BoyEvent → Bool
  | ⟨.vapiCtxAlloc, err⟩ => decide (err = .ok)
  | _ => false

def contextFreed (e : BoyEvent) : Bool := e.call matches .vapiCtxFree

def connectionMade : BoyEvent → Bool
  | ⟨.vapiConnect _, err⟩ => decide (err = .ok)
  | _ => false

def connectionEnded (e : BoyEvent) : Bool := e.call matches .vapiDisconnect

def messageGiven : BoyEvent → Bool
  | ⟨.vapiAlloc _, granted⟩ => granted
  | _ => false

def messageSent (e : BoyEvent) : Bool := e.call.message.isSome

namespace VapiPhase

def context : VapiPhase → Nat
  | .allocated => 1
  | .connected => 1
  | .holding _ => 1
  | .disconnected => 1
  | .refused => 1
  | _ => 0

def connection : VapiPhase → Nat
  | .connected => 1
  | .holding _ => 1
  | _ => 0

def heldMessage : VapiPhase → Nat
  | .holding _ => 1
  | _ => 0

end VapiPhase

/-- What was given was taken back, or the phase says that it is there. -/
structure VapiBalance (phase : VapiPhase) (tr : List BoyEvent) : Prop where
  context : tr.countP contextGiven = tr.countP contextFreed + phase.context
  connection : tr.countP connectionMade = tr.countP connectionEnded + phase.connection
  message : tr.countP messageGiven = tr.countP messageSent + phase.heldMessage

theorem VapiBalance.concat {phase phase' : VapiPhase} {tr : List BoyEvent} {e : BoyEvent}
    (h : VapiBalance phase tr)
    (context : (contextGiven e).toNat + phase.context = (contextFreed e).toNat + phase'.context)
    (connection : (connectionMade e).toNat + phase.connection =
      (connectionEnded e).toNat + phase'.connection)
    (message : (messageGiven e).toNat + phase.heldMessage =
      (messageSent e).toNat + phase'.heldMessage) :
    VapiBalance phase' (tr ++ [e]) := by
  have one (p : BoyEvent → Bool) : (tr ++ [e]).countP p = tr.countP p + (p e).toNat := by
    rw [List.countP_append, List.countP_singleton]
    cases p e with
    | false => rfl
    | true => rfl
  constructor
  · have before := h.context
    rw [one, one]
    omega
  · have before := h.connection
    rw [one, one]
    omega
  · have before := h.message
    rw [one, one]
    omega

theorem VapiBalance.isLocal {phase : VapiPhase} {tr : List BoyEvent} {e : BoyEvent}
    (h : VapiBalance phase tr) (here : e.call.isLocal = true) : VapiBalance phase (tr ++ [e]) := by
  obtain ⟨c, r⟩ := e
  apply h.concat
  all_goals
    cases c
    all_goals first
      | rfl
      | cases here

theorem VapiBalance.sent {message : String} {tr : List BoyEvent} {e : BoyEvent}
    (h : VapiBalance (.holding message) tr) (sends : e.call.message = some message) :
    VapiBalance .connected (tr ++ [e]) := by
  obtain ⟨c, r⟩ := e
  apply h.concat
  all_goals
    cases c
    all_goals first
      | rfl
      | cases sends

theorem VapiBalance.next {phase : VapiPhase} {tr : List BoyEvent} {e : BoyEvent}
    {behind : BoyReply e.call → VapiPhase} (allowed : vapiNext may phase e.call = some behind)
    (h : VapiBalance phase tr) : VapiBalance (behind e.reply) (tr ++ [e]) := by
  obtain ⟨c, r⟩ := e
  simp only at allowed behind
  unfold vapiNext at allowed
  split at allowed
  · split at allowed
    · rename_i sends
      cases allowed
      exact h.sent sends.1
    · cases allowed
  · cases allowed
    apply h.concat
    all_goals
      cases r
      all_goals rfl
  · cases allowed
    apply h.concat
    all_goals
      cases r
      all_goals rfl
  · cases allowed
    apply h.concat
    all_goals
      cases r
      all_goals rfl
  · cases allowed
    exact h.concat rfl rfl rfl
  · cases allowed
    exact h.concat rfl rfl rfl
  · cases allowed
    exact h.concat rfl rfl rfl
  · split at allowed
    · rename_i here
      cases allowed
      exact h.isLocal here
    · cases allowed

theorem vapiBalance_of_passes {phase : VapiPhase} {tr : List BoyEvent}
    (h : (vapiProtocol may).Passes .unopened tr phase) : VapiBalance phase tr := by
  have start : VapiBalance .unopened [] := ⟨rfl, rfl, rfl⟩
  exact h.keeps (fun _ _ _ _ allowed balanced => balanced.next allowed) start

/-! ## Memory -/

/-- The calls of the allocator, and where there is no way on. -/
def BoyCall.isMemory : BoyCall → Bool
  | .malloc _ => true
  | .calloc .. => true
  | .realloc _ => true
  | .stuck => true
  | _ => false

abbrev MemoryOnly {α : Type} (p : Boy α) : Prop := p.Only (fun c => c.isMemory = true) fun _ => True

theorem memoryOnly_call {c : BoyCall} (h : c.isMemory = true) : MemoryOnly (boyCall c) :=
  ⟨h, fun _ => trivial⟩

theorem memoryOnly_stuck {α : Type} : MemoryOnly (stuck : Boy α) := ⟨rfl, nofun⟩

theorem memoryOnly_ite {α : Type} {c : Prop} [Decidable c] {p q : Boy α} (hp : MemoryOnly p)
    (hq : MemoryOnly q) :
    MemoryOnly (if c then p else q) := by
  split
  · exact hp
  · exact hq

theorem MemoryOnly.bind {α β : Type} {p : Boy α} {f : α → Boy β} (hp : MemoryOnly p)
    (hf : ∀ a, MemoryOnly (f a)) :
    MemoryOnly (p >>= f) := Only.bind hp fun a _ => hf a

theorem memoryOnly_reserve (capacity itemSize requiredCount : Nat) :
    MemoryOnly (reserve capacity itemSize requiredCount) := by
  unfold reserve
  split
  · trivial
  · split
    · exact memoryOnly_stuck
    · apply (memoryOnly_call rfl).bind
      intro granted
      split
      · trivial
      · trivial

theorem memoryOnly_boyDumpCb {Details Entry : Type} (itemSize : Nat) (entry : Details → Entry)
    (table : BoyTable Entry) (cb : DumpCallback Details) :
    MemoryOnly (boyDumpCb itemSize entry table cb) := by
  unfold boyDumpCb
  split
  · trivial
  · split
    · apply (memoryOnly_reserve _ _ _).bind
      intro reserved
      split
      · trivial
      · trivial
    · trivial

theorem memoryOnly_runDumpCallbacks {Details Entry : Type} (itemSize : Nat)
    (entry : Details → Entry) (cbs : List (DumpCallback Details)) (table : BoyTable Entry) :
    MemoryOnly (runDumpCallbacks (boyDumpCb itemSize entry) cbs table) := by
  induction cbs generalizing table with
  | nil => trivial
  | cons cb cbs ih =>
    apply (memoryOnly_boyDumpCb _ _ _ _).bind
    intro result
    split
    · trivial
    · exact ih _

theorem memoryOnly_appTableInit (columns : List AppTableColumn) :
    MemoryOnly (appTableInit columns) := by
  unfold appTableInit
  split
  · trivial
  · apply (memoryOnly_call rfl).bind
    intro granted
    split
    · trivial
    · trivial

theorem memoryOnly_appTableCopyCells (cells : List (Option CString)) :
    MemoryOnly (appTableCopyCells cells) := by
  induction cells with
  | nil => trivial
  | cons cell cells ih =>
    have copied : MemoryOnly (appTableStrdup cell) := by
      apply (memoryOnly_call rfl).bind
      intro granted
      split
      · trivial
      · trivial
    apply copied.bind
    intro copy
    cases copy with
    | none => trivial
    | some copy =>
      apply ih.bind
      intro copies
      cases copies with
      | none => trivial
      | some copies => trivial

theorem memoryOnly_appTableAddRow (table : AppTable) (cells : List (Option CString)) :
    MemoryOnly (appTableAddRow table cells) := by
  apply (memoryOnly_reserve _ _ _).bind
  intro reserved
  split
  · trivial
  · apply (memoryOnly_call rfl).bind
    intro granted
    split
    · apply (memoryOnly_appTableCopyCells _).bind
      intro copies
      cases copies with
      | none => trivial
      | some copies => trivial
    · trivial

theorem memoryOnly_boyOverride (interfaces : List BoyInterfaceEntry) (cliOutput : Option CString) :
    MemoryOnly (boyOverrideCardFamilyFromCliOutput interfaces cliOutput) := by
  unfold boyOverrideCardFamilyFromCliOutput
  split
  · trivial
  · apply memoryOnly_ite
    · trivial
    · apply (memoryOnly_call rfl).bind
      intro granted
      exact memoryOnly_ite trivial trivial

theorem memoryOnly_boyCliInbandCb (rv : VapiError) (reply : Option CliInbandReply) :
    MemoryOnly (boyCliInbandCb rv reply) := by
  unfold boyCliInbandCb
  split
  · trivial
  · split
    · trivial
    · apply (memoryOnly_call rfl).bind
      intro granted
      exact memoryOnly_ite trivial trivial

/-! ## Local work -/

abbrev LocalOnly {α : Type} (p : Boy α) : Prop := p.Only (fun c => c.isLocal = true) fun _ => True

theorem localOnly_call {c : BoyCall} (h : c.isLocal = true) : LocalOnly (boyCall c) :=
  ⟨h, fun _ => trivial⟩

theorem localOnly_log (level : AppLogLevel) (format : String) (args : List BoyLogArg) :
    LocalOnly (boyLog level format args) := localOnly_call rfl

theorem localOnly_ite {α : Type} {c : Prop} [Decidable c] {p q : Boy α} (hp : LocalOnly p)
    (hq : LocalOnly q) :
    LocalOnly (if c then p else q) := by
  split
  · exact hp
  · exact hq

theorem localOnly_stuck {α : Type} : LocalOnly (stuck : Boy α) := ⟨rfl, nofun⟩

theorem MemoryOnly.isLocal {α : Type} {p : Boy α} (h : MemoryOnly p) : LocalOnly p := by
  apply h.mono
  · intro c memory
    cases c
    all_goals first
      | rfl
      | cases memory
  · exact fun _ _ => trivial

theorem LocalOnly.bind {α β : Type} {p : Boy α} {f : α → Boy β} (hp : LocalOnly p)
    (hf : ∀ a, LocalOnly (f a)) :
    LocalOnly (p >>= f) := Only.bind hp fun a _ => hf a

theorem LocalOnly.attempt {α β : Type} {m : Attempt α} {f : α → Attempt β} (hm : LocalOnly m.run)
    (hf : ∀ a, LocalOnly (f a).run) : LocalOnly (m >>= f).run := Only.attempt hm id fun a _ => hf a

theorem LocalOnly.lift {α : Type} {p : Boy α} (hp : LocalOnly p) :
    LocalOnly (liftM p : Attempt α).run :=
  hp.bind fun _ => trivial

theorem LocalOnly.orCleanup {α : Type} {m : Boy (Int × α)} (hm : LocalOnly m) :
    LocalOnly (orCleanup m).run :=
  hm.bind fun _ => trivial

theorem localOnly_logThenCleanup {α : Type} (format : String) (args : List BoyLogArg) :
    LocalOnly (logThenCleanup format args : Attempt α).run :=
  (localOnly_log _ _ _).bind fun _ => trivial

theorem localOnly_runAppTableRender (table : AppTable) : LocalOnly (runAppTableRender table) := by
  have prints (widths : Bool) : LocalOnly (boyCall (.appTableRender table widths)) :=
    localOnly_call rfl
  apply localOnly_ite
  · exact prints false
  · exact (memoryOnly_call rfl).isLocal.bind prints

/-! ## Requests -/

/-- Connected before and behind. -/
abbrev Talks (may : BoyCall → Bool) {α : Type} (p : Boy α) : Prop :=
  p.Speaks (vapiProtocol may) (fun _ phase => phase = .connected) .connected

theorem LocalOnly.speaks {α : Type} {p : Boy α} (h : LocalOnly p) {phase : VapiPhase}
    (free : ∀ message, phase ≠ .holding message) :
    p.Speaks (vapiProtocol may) (fun _ phase' => phase' = phase) phase := by
  have stays (c : BoyCall) (here : c.isLocal = true) :
      (vapiProtocol may).next phase c = some fun _ => phase := by
    cases phase
    case holding message => exact absurd rfl (free message)
    all_goals
      cases c
      all_goals first
        | rfl
        | cases here
  exact (Only.speaks h stays).mono fun _ _ same => same.2

theorem LocalOnly.talks {α : Type} {p : Boy α} (h : LocalOnly p) : Talks may p := h.speaks nofun

theorem Talks.bind {α β : Type} {p : Boy α} {f : α → Boy β} (hp : Talks may p)
    (hf : ∀ a, Talks may (f a)) :
    Talks may (p >>= f) := by
  apply Speaks.bind hp
  rintro a _ rfl
  exact hf a

theorem Talks.attempt {α β : Type} {m : Attempt α} {f : α → Attempt β} (hm : Talks may m.run)
    (hf : ∀ a, Talks may (f a).run) : Talks may (m >>= f).run := by
  apply Speaks.attempt hm
  · exact fun _ same => same
  · rintro a _ rfl
    exact hf a

theorem Talks.lift {α : Type} {p : Boy α} (hp : Talks may p) :
    Talks may (liftM p : Attempt α).run := hp.bind fun _ => rfl

theorem Talks.orCleanup {α : Type} {m : Boy (Int × α)} (hm : Talks may m) :
    Talks may (orCleanup m).run :=
  hm.bind fun _ => rfl

theorem Talks.unlessZero {m : Boy Int} (hm : Talks may m) : Talks may (unlessZero m).run :=
  hm.bind fun _ => rfl

/-- The message that was allocated is sent first. -/
abbrev Sends (may : BoyCall → Bool) {α : Type} (message : String) (p : Boy α) : Prop :=
  p.Speaks (vapiProtocol may) (fun _ phase => phase = .connected) (.holding message)

theorem sends_call {c : BoyCall} {message : String} (sends : c.message = some message)
    (allowed : may c = true) :
    Sends may message (boyCall c) := ⟨fun _ => .connected, if_pos ⟨sends, allowed⟩, fun _ => rfl⟩

theorem Sends.bind {α β : Type} {message : String} {p : Boy α} {f : α → Boy β}
    (hp : Sends may message p) (hf : ∀ a, Talks may (f a)) : Sends may message (p >>= f) := by
  apply Speaks.bind hp
  rintro a _ rfl
  exact hf a

theorem Sends.attempt {α β : Type} {message : String} {p : Boy α} {f : α → Attempt β}
    (hp : Sends may message p)
    (hf : ∀ a, Talks may (f a).run) : Sends may message (liftM p >>= f : Attempt β).run := by
  have lifted : Sends may message (liftM p : Attempt α).run := hp.bind fun _ => rfl
  apply Speaks.attempt lifted
  · exact fun _ same => same
  · rintro a _ rfl
    exact hf a

/-- A message is allocated, and sent if there was one. -/
theorem talks_alloc {α : Type} {message : String} {sent failed : Boy α}
    (hsent : Sends may message sent) (hfailed : Talks may failed) :
    Talks may (boyCall (.vapiAlloc message) >>= fun allocated : Bool =>
      if allocated then sent else failed) := by
  refine ⟨_, rfl, fun granted => ?_⟩
  cases granted with
  | false => exact hfailed
  | true => exact hsent

theorem talks_allocAttempt {α : Type} {message : String} {sent failed : Attempt α}
    (hsent : Sends may message sent.run) (hfailed : Talks may failed.run) :
    Talks may (liftM (boyCall (.vapiAlloc message)) >>= fun allocated : Bool =>
      if allocated then sent else failed : Attempt α).run := by
  refine ⟨_, rfl, fun granted => ?_⟩
  cases granted with
  | false => exact hfailed
  | true => exact hsent

theorem talks_boySimpleRequest {message : String} {send : Boy VapiAnswer}
    (hsend : Sends may message send)
    {cb : VapiError → Option Int → Boy (VapiError × BoySimpleReplyResult)}
    {failed : VapiError → Boy Unit} {noReply : Boy Unit} {refused : Int → Boy Unit}
    (hcb : ∀ rv reply, LocalOnly (cb rv reply)) (hfailed : ∀ err, LocalOnly (failed err))
    (hnoReply : LocalOnly noReply) (hrefused : ∀ retval, LocalOnly (refused retval)) :
    Talks may (boySimpleRequest message send cb failed noReply refused) := by
  apply talks_alloc
  · apply hsend.bind
    intro answer
    apply LocalOnly.talks
    have judged : LocalOnly (runSimpleCb cb answer) := by
      cases answer with
      | silent err => trivial
      | replied rv reply => exact hcb rv reply
    apply judged.bind
    intro result
    split
    · exact (hfailed _).bind fun _ => trivial
    · split
      · exact hnoReply.bind fun _ => trivial
      · split
        · exact (hrefused _).bind fun _ => trivial
        · trivial
  · apply LocalOnly.talks
    exact (localOnly_log _ _ _).bind fun _ => trivial

theorem talks_boySetInterfaceAdminUp {swIfIndex : UInt32}
    (allowed : may (.swInterfaceSetFlags swIfIndex ifStatusApiFlagAdminUp) = true) :
    Talks may (boySetInterfaceAdminUp swIfIndex) := by
  apply talks_boySimpleRequest (sends_call rfl allowed)
  · intro rv reply
    unfold boySwInterfaceSetFlagsCb
    split
    · trivial
    · trivial
  · exact fun _ => localOnly_log _ _ _
  · exact localOnly_log _ _ _
  · exact fun _ => localOnly_log _ _ _

theorem talks_boySetSpanEntry {swIfIndexFrom swIfIndexTo : UInt32} {state : SpanState} {isL2 : Bool}
    (allowed : may (.swInterfaceSpanEnableDisable swIfIndexFrom swIfIndexTo state isL2) = true) :
    Talks may (boySetSpanEntry swIfIndexFrom swIfIndexTo state isL2) := by
  apply talks_boySimpleRequest (sends_call rfl allowed)
  · intro rv reply
    unfold boySpanEnableDisableCb
    split
    · trivial
    · split
      · trivial
      · exact localOnly_stuck
  · exact fun _ => localOnly_log _ _ _
  · exact localOnly_log _ _ _
  · exact fun _ => localOnly_log _ _ _

theorem talks_boyCollect {Details Entry : Type} {message : String} {send : Boy (VapiDump Details)}
    (hsend : Sends may message send) (itemSize : Nat) (entry : Details → Entry)
    (table : BoyTable Entry) :
    Talks may (boyCollect message send (boyDumpCb itemSize entry) table) := by
  apply talks_alloc
  · apply hsend.bind
    intro dump
    apply LocalOnly.talks
    apply (memoryOnly_runDumpCallbacks _ _ _ _).isLocal.bind
    intro result
    apply localOnly_ite
    · exact (localOnly_log _ _ _).bind fun _ => trivial
    · trivial
  · apply LocalOnly.talks
    exact (localOnly_log _ _ _).bind fun _ => trivial

theorem talks_gotInterfaces (allowed : may .swInterfaceDump = true) (table : BoyInterfaceTable) :
    Talks may (orCleanup (boyCollectInterfaces table)).run :=
  (talks_boyCollect (sends_call rfl allowed) _ _ _).orCleanup

theorem talks_gotSpan {isL2 : Bool} (allowed : may (.swInterfaceSpanDump isL2) = true)
    (table : BoySpanTable) :
    Talks may (orCleanup (boyCollectSpan isL2 table)).run :=
  (talks_boyCollect (sends_call rfl allowed) _ _ _).orCleanup

theorem talks_gotMemif (allowed : may .memifDump = true) (table : BoyMemifTable) :
    Talks may (orCleanup (boyCollectMemif table)).run :=
  (talks_boyCollect (sends_call rfl allowed) _ _ _).orCleanup

/-! ## The commands -/

/-- A context that was there is disconnected if it was connected, and freed. -/
def SessionEnded (rc : Int) (phase : VapiPhase) : Prop :=
  rc = 1 ∧ phase = .unavailable ∨ (rc = 0 ∨ rc = 1) ∧ phase = .closed

/-- Without a connection there is no context either. -/
theorem speaks_boyOpenVapi : boyOpenVapi.Speaks (vapiProtocol may)
    (fun opened phase => opened = (1, false) ∧ phase = .unavailable ∨
      opened = (0, true) ∧ phase = .connected) .unopened := by
  refine ⟨_, rfl, fun err => ?_⟩
  simp only [Prog.bind]
  split
  · exact ⟨_, rfl, fun _ => .inl ⟨rfl, rfl⟩⟩
  · rename_i context
    rw [if_pos (not_not.1 context)]
    refine ⟨_, rfl, fun err => ?_⟩
    simp only [Prog.bind]
    split
    · exact ⟨_, rfl, fun _ => ⟨_, rfl, fun _ => .inl ⟨rfl, rfl⟩⟩⟩
    · rename_i connected
      rw [if_pos (not_not.1 connected)]
      exact .inr ⟨rfl, rfl⟩

theorem ended_withVapi {operation : String} {body : Attempt Unit} (h : Talks may body.run) :
    (withVapi operation body).Speaks (vapiProtocol may) SessionEnded .unopened := by
  refine ⟨_, rfl, fun _ => ?_⟩
  apply Speaks.bind speaks_boyOpenVapi
  rintro _ _ (⟨rfl, rfl⟩ | ⟨rfl, rfl⟩)
  · exact .inl ⟨rfl, rfl⟩
  · have finishes : (cleanupCode 0 body).Speaks (vapiProtocol may)
        (fun rc phase => (rc = 0 ∨ rc = 1) ∧ phase = .connected) .connected := by
      apply Speaks.bind h
      rintro finished _ rfl
      cases finished with
      | none => exact ⟨.inr rfl, rfl⟩
      | some _ => exact ⟨.inl rfl, rfl⟩
    apply Speaks.bind finishes
    rintro rc _ ⟨code, rfl⟩
    exact ⟨_, rfl, fun _ => ⟨_, rfl, fun _ => .inr ⟨code, rfl⟩⟩⟩

theorem talks_log (level : AppLogLevel) (format : String) (args : List BoyLogArg) :
    Talks may (boyLog level format args) :=
  (localOnly_log level format args).talks

theorem talks_logThenCleanup {α : Type} (format : String) (args : List BoyLogArg) :
    Talks may (logThenCleanup format args : Attempt α).run :=
  (localOnly_logThenCleanup format args).talks

/-- A table, or a message and the way to the cleanup. -/
theorem talks_table {columns : List AppTableColumn} {message : String} :
    Talks may (OptionT.run (OptionT.mk (appTableInit columns >>= fun o =>
      match o with
      | none => boyLog .error message [] >>= fun _ => pure none
      | some table => pure (some table)) : Attempt AppTable)) := by
  apply (memoryOnly_appTableInit _).isLocal.talks.bind
  intro o
  cases o with
  | none => exact (talks_log _ _ _).bind fun _ => rfl
  | some table => rfl

/-- A row more, or a message and the way to the cleanup. -/
theorem talks_row {table : AppTable} {cells : List (Option CString)} {message : String} :
    Talks may (OptionT.run (OptionT.mk (appTableAddRow table cells >>= fun added =>
      if added.1 ≠ 0 then boyLog .error message [] >>= fun _ => pure none
      else pure (some added.2)) : Attempt AppTable)) := by
  apply (memoryOnly_appTableAddRow _ _).isLocal.talks.bind
  intro added
  split
  · exact (talks_log _ _ _).bind fun _ => rfl
  · rfl

theorem talks_showSpanEntries (interfaces : List BoyInterfaceEntry) (ifEntry : BoyInterfaceEntry)
    (entries : List BoySpanEntry) (table : AppTable) (found : Bool) :
    Talks may (showSpanEntries interfaces ifEntry entries table found).run := by
  induction entries generalizing table found with
  | nil => rfl
  | cons entry entries ih =>
    unfold showSpanEntries
    split
    · exact ih table found
    · exact Talks.attempt talks_row fun table => ih table true

theorem talks_showSpanInterfaces (interfaces : List BoyInterfaceEntry) (entries : List BoySpanEntry)
    (rest : List BoyInterfaceEntry) (table : AppTable) :
    Talks may (showSpanInterfaces interfaces entries rest table).run := by
  induction rest generalizing table with
  | nil => rfl
  | cons ifEntry rest ih =>
    unfold showSpanInterfaces
    split
    · exact ih table
    · apply (talks_showSpanEntries _ _ _ _ _).attempt
      intro shown
      apply Talks.attempt (m := showNoSpanEntry ifEntry shown)
      · unfold showNoSpanEntry
        split
        · rfl
        · exact talks_row
      · exact ih

theorem talks_showSpanBody (dump : may .swInterfaceDump = true)
    (spanDump : ∀ isL2, may (.swInterfaceSpanDump isL2) = true) : Talks may showSpanBody.run := by
  apply (talks_gotInterfaces dump _).attempt
  intro interfaces
  apply (talks_gotSpan (spanDump _) _).attempt
  intro entries
  apply (talks_gotSpan (spanDump _) _).attempt
  intro entries
  apply talks_table.attempt
  intro table
  apply (talks_showSpanInterfaces _ _ _ _).attempt
  intro table
  exact (localOnly_runAppTableRender table).talks.lift

theorem talks_unsetSpanEntries {sourceIfIndex : UInt32}
    (allowed : ∀ swIfIndexTo isL2,
      may (.swInterfaceSpanEnableDisable sourceIfIndex swIfIndexTo .disabled isL2) = true)
    (interfaces : List BoyInterfaceEntry) (entries : List BoySpanEntry) (removed : Nat) :
    Talks may (unsetSpanEntries interfaces sourceIfIndex entries removed).run := by
  induction entries generalizing removed with
  | nil => rfl
  | cons entry entries ih =>
    unfold unsetSpanEntries
    split
    · exact ih removed
    · rename_i own
      apply (talks_log _ _ _).lift.attempt
      intro _
      have disables : may (.swInterfaceSpanEnableDisable entry.swIfIndexFrom entry.swIfIndexTo
          .disabled entry.isL2) = true := by
        rw [not_not.1 own]
        exact allowed _ _
      apply (talks_boySetSpanEntry disables).unlessZero.attempt
      intro _
      exact ih _

theorem talks_unsetSpanBody {sourceIfIndex : UInt32} (dump : may .swInterfaceDump = true)
    (spanDump : ∀ isL2, may (.swInterfaceSpanDump isL2) = true)
    (disables : ∀ swIfIndexTo isL2,
      may (.swInterfaceSpanEnableDisable sourceIfIndex swIfIndexTo .disabled isL2) = true) :
    Talks may (unsetSpanBody sourceIfIndex).run := by
  apply (talks_gotInterfaces dump _).attempt
  intro interfaces
  apply (talks_gotSpan (spanDump _) _).attempt
  intro entries
  apply (talks_gotSpan (spanDump _) _).attempt
  intro entries
  apply (talks_unsetSpanEntries disables _ _ _).attempt
  intro removed
  apply Talks.lift
  unfold reportRemoved
  split
  · exact talks_log _ _ _
  · exact talks_log _ _ _

theorem talks_bringUp
    (allowed : ∀ swIfIndex, may (.swInterfaceSetFlags swIfIndex ifStatusApiFlagAdminUp) = true)
    (role : String) (entry : BoyInterfaceEntry) : Talks may (bringUp role entry).run := by
  unfold bringUp
  split
  · exact (talks_log _ _ _).lift.attempt fun _ =>
      (talks_boySetInterfaceAdminUp (allowed _)).unlessZero
  · rfl

theorem talks_setSpanBody {sourceIfIndex : UInt32} (destinationMemifName : CString)
    {deviceMode : BoySpanDeviceMode} (dump : may .swInterfaceDump = true)
    (up : ∀ swIfIndex, may (.swInterfaceSetFlags swIfIndex ifStatusApiFlagAdminUp) = true)
    (enables : ∀ swIfIndexTo, may (.swInterfaceSpanEnableDisable sourceIfIndex swIfIndexTo
      (boySpanStateFromDeviceMode deviceMode) false) = true) :
    Talks may (setSpanBody sourceIfIndex destinationMemifName deviceMode).run := by
  have configures {source : BoyInterfaceEntry} (own : source.swIfIndex = sourceIfIndex)
      (destination : BoyInterfaceEntry) :
      Talks may (configureSpan source destination deviceMode).run := by
    apply (talks_bringUp up _ _).attempt
    intro _
    apply (talks_bringUp up _ _).attempt
    intro _
    apply (talks_log _ _ _).lift.attempt
    intro _
    have enabled : may (.swInterfaceSpanEnableDisable source.swIfIndex destination.swIfIndex
        (boySpanStateFromDeviceMode deviceMode) false) = true := by
      rw [own]
      exact enables _
    apply (talks_boySetSpanEntry enabled).unlessZero.attempt
    exact fun _ => (talks_log _ _ _).lift
  apply (talks_gotInterfaces dump _).attempt
  intro interfaces
  unfold checkedSpan
  split
  · exact talks_logThenCleanup _ _
  · rename_i source found
    have own : source.swIfIndex = sourceIfIndex := by simpa using List.find?_some found
    split
    · exact talks_logThenCleanup _ _
    · split
      · exact talks_logThenCleanup _ _
      · split
        · exact talks_logThenCleanup _ _
        · exact configures own _

theorem talks_showMemifBody (dump : may .memifDump = true) : Talks may showMemifBody.run := by
  have rows (entries : List BoyMemifEntry) (table : AppTable) :
      Talks may (showMemifEntries entries table).run := by
    induction entries generalizing table with
    | nil => rfl
    | cons entry entries ih => exact talks_row.attempt ih
  apply (talks_gotMemif dump _).attempt
  intro entries
  apply talks_table.attempt
  intro table
  apply (rows _ _).attempt
  intro table
  exact (localOnly_runAppTableRender table).talks.lift

theorem talks_showPhyInterfaces (entries : List BoyInterfaceEntry) (table : AppTable)
    (shown : Nat) :
    Talks may (showPhyInterfaces entries table shown).run := by
  induction entries generalizing table shown with
  | nil => rfl
  | cons entry entries ih =>
    unfold showPhyInterfaces
    split
    · exact ih table shown
    · exact Talks.attempt talks_row fun table => ih table _

theorem localOnly_runReturnCb {Payload Result : Type}
    {cb : VapiError → Option Payload → Boy (VapiError × Option Result)}
    (hcb : ∀ rv reply, LocalOnly (cb rv reply)) (answer : VapiReturn Payload) :
    LocalOnly (runReturnCb cb answer) := by
  cases answer with
  | silent err => trivial
  | replied rv reply => exact hcb rv reply

theorem talks_boyFetchShowHardwareOutput
    (cli : may (.cliInband "show hardware-interfaces".toList) = true) :
    Talks may boyFetchShowHardwareOutput := by
  apply talks_alloc
  · apply (sends_call rfl cli).bind
    intro answer
    apply LocalOnly.talks
    apply (localOnly_runReturnCb (fun rv reply => (memoryOnly_boyCliInbandCb rv reply).isLocal)
      answer).bind
    intro result
    split
    · exact (localOnly_log _ _ _).bind fun _ => trivial
    · split
      · exact (localOnly_log _ _ _).bind fun _ => trivial
      · split
        · exact (localOnly_log _ _ _).bind fun _ => trivial
        · trivial
  · apply LocalOnly.talks
    exact (localOnly_log _ _ _).bind fun _ => trivial

theorem talks_showPhyBody (dump : may .swInterfaceDump = true)
    (cli : may (.cliInband "show hardware-interfaces".toList) = true) :
    Talks may showPhyBody.run := by
  apply (talks_gotInterfaces dump _).attempt
  intro interfaces
  have families : Talks may (cardFamilies interfaces.entries) := by
    apply (talks_boyFetchShowHardwareOutput cli).bind
    intro fetched
    split
    · exact (memoryOnly_boyOverride _ _).isLocal.talks
    · exact (talks_log _ _ _).bind fun _ => rfl
  apply families.lift.attempt
  intro entries
  apply talks_table.attempt
  intro table
  apply (talks_showPhyInterfaces _ _ _).attempt
  intro shown
  apply (localOnly_runAppTableRender _).talks.lift.attempt
  intro _
  split
  · exact (talks_log _ _ _).lift
  · rfl

theorem talks_memifCreated (options : BoyMemifCreateOptions) {swIfIndex : UInt32}
    (up : may (.swInterfaceSetFlags swIfIndex ifStatusApiFlagAdminUp) = true) :
    Talks may (memifCreated options swIfIndex).run := by
  apply (talks_boySetInterfaceAdminUp up).lift.attempt
  intro rc
  split
  · exact talks_logThenCleanup _ _
  · exact (talks_log _ _ _).lift

theorem talks_createMemifBody {options : BoyMemifCreateOptions}
    (creates : may (.memifCreate (memifCreatePayload options)) = true)
    (up : ∀ swIfIndex, may (.swInterfaceSetFlags swIfIndex ifStatusApiFlagAdminUp) = true) :
    Talks may (createMemifBody options).run := by
  have reads (rv : VapiError) (reply : Option MemifCreateReply) :
      LocalOnly (boyMemifCreateCb rv reply) := by
    unfold boyMemifCreateCb
    split
    · trivial
    · split
      · trivial
      · exact localOnly_stuck
  apply talks_allocAttempt
  · apply (sends_call rfl creates).attempt
    intro answer
    apply (localOnly_runReturnCb reads answer).talks.lift.attempt
    intro result
    split
    · exact talks_logThenCleanup _ _
    · split
      · exact talks_logThenCleanup _ _
      · split
        · exact talks_logThenCleanup _ _
        · exact talks_memifCreated _ (up _)
  · exact talks_logThenCleanup _ _

theorem talks_reportVersion (result : BoyVppVersionResult) :
    Talks may (reportVersion result).run := by
  unfold reportVersion
  split
  · exact talks_logThenCleanup _ _
  · apply (talks_log _ _ _).lift.attempt
    intro _
    apply (talks_log _ _ _).lift.attempt
    intro _
    apply (talks_log _ _ _).lift.attempt
    exact fun _ => (talks_log _ _ _).lift

theorem talks_showVersionBody (version : may .showVersion = true) :
    Talks may showVersionBody.run := by
  have reads (rv : VapiError) (reply : Option ShowVersionReply) :
      LocalOnly (boyShowVersionCb rv reply) := by
    unfold boyShowVersionCb
    split
    · trivial
    · split
      · trivial
      · exact localOnly_stuck
  apply talks_allocAttempt
  · apply (sends_call rfl version).attempt
    intro answer
    apply (localOnly_runReturnCb reads answer).talks.lift.attempt
    intro result
    split
    · exact talks_logThenCleanup _ _
    · split
      · exact talks_logThenCleanup _ _
      · exact talks_reportVersion _
  · exact talks_logThenCleanup _ _

/-! ## All of `boy` -/

/-- The session is over, or there was none. -/
def BoyEnded (rc : Int) (phase : VapiPhase) : Prop :=
  SessionEnded rc phase ∨ (rc = 0 ∨ rc = 1) ∧ phase = .unopened

theorem speaks_boyRun (options : BoyCliOptions) :
    (boyRun options).Speaks (vapiProtocol (boyMay options)) BoyEnded .unopened := by
  have session {operation : String} {body : Attempt Unit} (h : Talks (boyMay options) body.run) :
      (withVapi operation body).Speaks (vapiProtocol (boyMay options)) BoyEnded .unopened :=
    (ended_withVapi h).mono fun _ _ ended => .inl ended
  unfold boyRun
  cases mode : options.mode with
  | showCodeVersion => exact ⟨_, rfl, fun _ => .inr ⟨.inl rfl, rfl⟩⟩
  | setSpan =>
    cases options.setSpanMemifName with
    | none => exact ⟨_, rfl, nofun⟩
    | some name =>
      apply session
      apply talks_setSpanBody
      all_goals simp [boyMay, mode]
  | unsetSpan =>
    apply session
    apply talks_unsetSpanBody
    all_goals simp [boyMay, mode]
  | showMemif =>
    apply session
    apply talks_showMemifBody
    simp [boyMay, mode]
  | createMemif =>
    apply session
    apply talks_createMemifBody
    all_goals simp [boyMay, mode]
  | showPhy =>
    apply session
    apply talks_showPhyBody
    all_goals simp [boyMay, mode]
  | showSpan =>
    apply session
    apply talks_showSpanBody
    all_goals simp [boyMay, mode]
  | showVersion =>
    apply session
    apply talks_showVersionBody
    simp [boyMay, mode]

theorem speaks_boyMain (posixlyCorrect : Bool) (argv : List CString) :
    (boyMain posixlyCorrect argv).Speaks
      (vapiProtocol (commandLineMay posixlyCorrect argv)) BoyEnded .unopened := by
  unfold boyMain
  cases parsed : boyParseCliOptions posixlyCorrect argv with
  | ok options =>
    have may : commandLineMay posixlyCorrect argv = boyMay options := by
      funext c
      rw [commandLineMay, parsed]
    rw [may]
    exact speaks_boyRun options
  | error exit =>
    cases exit with
    | help => exact .inr ⟨.inl rfl, rfl⟩
    | usage => exact .inr ⟨.inr rfl, rfl⟩
    | failure message => exact .inr ⟨.inr rfl, rfl⟩

theorem isEnd_of_boyEnded {rc : Int} {phase : VapiPhase} (h : BoyEnded rc phase) :
    phase.context = 0 ∧ phase.connection = 0 ∧ phase.heldMessage = 0 ∧ (rc = 0 ∨ rc = 1) := by
  rcases h with (⟨rfl, rfl⟩ | ⟨code, rfl⟩) | ⟨code, rfl⟩
  · exact ⟨rfl, rfl, rfl, .inr rfl⟩
  · exact ⟨rfl, rfl, rfl, code⟩
  · exact ⟨rfl, rfl, rfl, code⟩

theorem message_of_isLocal {c : BoyCall} (here : c.isLocal = true) : c.message = none := by
  cases c
  all_goals first
    | rfl
    | cases here

theorem may_of_next {phase : VapiPhase} {c : BoyCall} {behind : BoyReply c → VapiPhase}
    (allowed : vapiNext may phase c = some behind) (request : c.message.isSome = true) :
    may c = true := by
  unfold vapiNext at allowed
  split at allowed
  · split at allowed
    · rename_i sends
      exact sends.2
    · cases allowed
  · cases request
  · cases request
  · cases request
  · cases request
  · cases request
  · cases request
  · split at allowed
    · rename_i here
      rw [message_of_isLocal here] at request
      cases request
    · cases allowed

/-- Only the requests of its command line are ever made. -/
theorem may_of_begins {posixlyCorrect : Bool} {argv : List CString} {tr : List BoyEvent}
    (run : Begins (boyMain posixlyCorrect argv) tr) :
    ∀ e ∈ tr, e.call.message.isSome = true → commandLineMay posixlyCorrect argv e.call = true := by
  obtain ⟨phase, passes⟩ := (speaks_boyMain posixlyCorrect argv).begins run
  have step (phase : VapiPhase) (e : BoyEvent) (behind : BoyReply e.call → VapiPhase)
      (t : List BoyEvent)
      (allowed : vapiNext (commandLineMay posixlyCorrect argv) phase e.call = some behind)
      (before : ∀ e ∈ t, e.call.message.isSome = true →
        commandLineMay posixlyCorrect argv e.call = true) :
      ∀ e' ∈ t ++ [e], e'.call.message.isSome = true →
        commandLineMay posixlyCorrect argv e'.call = true := by
    intro e' there request
    rcases List.mem_append.1 there with earlier | last
    · exact before e' earlier request
    · rw [List.mem_singleton.1 last] at request ⊢
      exact may_of_next allowed request
  have none : ∀ e ∈ ([] : List BoyEvent), e.call.message.isSome = true →
      commandLineMay posixlyCorrect argv e.call = true := by simp
  exact passes.keeps (I := fun _ t => ∀ e ∈ t, e.call.message.isSome = true →
    commandLineMay posixlyCorrect argv e.call = true) step none

/-- **One session with VPP.** Wherever a run of `boy` is, it has called libvapi in
the order of the protocol and made only the requests of its command line, whatever
the replies. A finished run has returned 0 or 1, and has freed every context,
ended every connection and sent every message. -/
theorem vapi_session (posixlyCorrect : Bool) (argv : List CString) :
    (∀ tr, Begins (boyMain posixlyCorrect argv) tr →
      ∃ phase, (vapiProtocol (commandLineMay posixlyCorrect argv)).Passes .unopened tr phase) ∧
    ∀ tr rc, Follows (boyMain posixlyCorrect argv) tr rc → (rc = 0 ∨ rc = 1) ∧
      (∃ phase, (vapiProtocol (commandLineMay posixlyCorrect argv)).Passes .unopened tr phase ∧
        (phase = .unavailable → rc = 1)) ∧
      tr.countP contextGiven = tr.countP contextFreed ∧
      tr.countP connectionMade = tr.countP connectionEnded ∧
      tr.countP messageGiven = tr.countP messageSent := by
  have speaks := speaks_boyMain posixlyCorrect argv
  refine ⟨fun tr run => speaks.begins run, fun tr rc run => ?_⟩
  obtain ⟨phase, passes, ended⟩ := speaks.follows run
  have balance := vapiBalance_of_passes passes
  obtain ⟨no_context, no_connection, no_message, code⟩ := isEnd_of_boyEnded ended
  refine ⟨code, ⟨phase, passes, ?_⟩, ?_, ?_, ?_⟩
  · rintro rfl
    rcases ended with (⟨failed, _⟩ | ⟨_, other⟩) | ⟨_, other⟩
    · exact failed
    · cases other
    · cases other
  · rw [balance.context, no_context, Nat.add_zero]
  · rw [balance.connection, no_connection, Nat.add_zero]
  · rw [balance.message, no_message, Nat.add_zero]

end BeastieBoy
