import BeastieBoy.CaptureAccounts
import BeastieBoy.CaptureFile
import BeastieBoy.Interact.Conduct

/-!
# One session with libmemif

The order in which a capture calls libmemif and its packet writer: a socket, a
connection on it, polls one after the other, in each its callbacks, in each
`on_interrupt` one burst whose buffers are written in order and handed back, and
behind the loop the summary and what was made taken back. Every run keeps to
this, wherever a signal comes.
-/

namespace BeastieBoy

open CLib Interact Local

inductive CapturePhase where
  | fresh
  | joining (socket : Bool)
  /-- At a test of the flag: the first, or one behind a poll that went well. -/
  | looping (h : CaptureHandles)
  | running (h : CaptureHandles)
  | polling (h : CaptureHandles)
  | calling (h : CaptureHandles)
  /-- In a burst of `rx` buffers, with `bufs` of them to come. -/
  | taking (h : CaptureHandles) (qid rx : Nat) (bufs : List MemifBuffer)
  /-- Behind a failure in `on_interrupt`. -/
  | halting (h : CaptureHandles)
  | returned (h : CaptureHandles) (err : MemifErr)
  | stopped (h : CaptureHandles)
  | flushed (h : CaptureHandles)
  | leaving (h : CaptureHandles)
  | detached (h : CaptureHandles)
  | closed (h : CaptureHandles)

/-- What there is to take back. -/
def CapturePhase.handles : CapturePhase → CaptureHandles
  | .fresh => ⟨false, false⟩
  | .joining socket => ⟨socket, false⟩
  | .looping h => h
  | .running h => h
  | .polling h => h
  | .calling h => h
  | .taking h _ _ _ => h
  | .halting h => h
  | .returned h _ => h
  | .stopped h => h
  | .flushed h => h
  | .leaving h => h
  | .detached h => h
  | .closed h => h

/-- The line of `print_capture_progress`. -/
def progressLine (state : BeastieCaptureState) : String × List PrintArg :=
  if 0 < state.maxBytesToCapture then
    ("\r[%s] %lu/%lu bytes (%.1f%%), packets=%lu",
      [.str (progressBar state), .u64 state.bytesCaptured, .u64 state.maxBytesToCapture,
        .percent state.bytesCaptured state.maxBytesToCapture, .u64 state.packetsCaptured])
  else
    ("\r[%s] %lu bytes, packets=%lu",
      [.str (progressBar state), .u64 state.bytesCaptured, .u64 state.packetsCaptured])

def summaryFormat : String := "captured %lu bytes in %lu packets"

def summaryArgs (state : BeastieCaptureState) : List PrintArg :=
  [.u64 state.bytesCaptured, .u64 state.packetsCaptured]

/-- The path of the socket, as much of it as there is room for. -/
def captureSocket (config : BeastieCaptureConfig) : CString :=
  snprintf memifSocketPathSize (beastieCaptureStateInit config).currentMemifSocketPath

/-- The loop goes on behind a poll that ends so. -/
def MemifErr.Fine (err : MemifErr) : Prop := ¬ (err ≠ .success ∧ err ≠ .pollCancel)

instance (err : MemifErr) : Decidable err.Fine := inferInstanceAs (Decidable (¬ _))

/-- The calls a phase allows, and where each reply leads. -/
def captureNext (config : BeastieCaptureConfig) :
    CapturePhase → (c : BeastieCaptureState × CaptureCall) →
    Option (CaptureReply c.2 → CapturePhase)
  | .fresh, (_, .memifCreateSocket path appName) =>
    if path = captureSocket config ∧ appName = "beastie".toList then
      some fun made =>
        if made.err ≠ .success then .leaving ⟨made.handle, false⟩ else .joining made.handle
    else none
  | .joining socket, (_, .memifCreate interfaceId interfaceName) =>
    if interfaceId = config.memifId ∧ interfaceName = memifLocalIfname then
      some fun made =>
        if made.err ≠ .success then .leaving ⟨socket, made.handle⟩
        else .looping ⟨socket, made.handle⟩
    else none
  | .looping h, (_, .keepRunning) => some fun reading => if reading then .running h else .stopped h
  | .running h, (_, .memifPollEvent) => some fun _ => .polling h
  | .polling h, (_, .pollWait) => some fun _ => .calling h
  | .calling h, (_, .memifRxBurst qid count) =>
    if count = maxMemifBufs then
      some fun burst =>
        if burst.err ≠ .success then .halting h
        else if burst.bufs = [] then .calling h else .taking h qid burst.bufs.length burst.bufs
    else none
  | .calling h, (_, .memifRefillQueue qid count) =>
    if qid = 0 ∧ count = 2 ^ 16 - 1 then some fun _ => .calling h else none
  | .calling h, (_, .memifCancelPollEvent) => some fun _ => .calling h
  | .calling h, (_, .flushPcapWriter) => some fun result =>
    if result ≠ 0 then .halting h else .calling h
  | .calling h, (_, .pollReturn err) => some fun _ => .returned h err
  | .taking h qid rx (buf :: bufs), (_, .writePcapPacket filename next) =>
    if filename = captureFilename config ∧ next = buf then
      some fun result => if result ≠ 0 then .halting h else .taking h qid rx bufs
    else none
  | .taking h qid rx _, (_, .stop) => some fun _ => .taking h qid rx []
  | .taking h qid rx [], (s, .printf format args) =>
    if (format, args) = progressLine s then some fun _ => .taking h qid rx [] else none
  | .taking h qid rx [], (_, .flushPcapWriter) =>
    some fun result => if result ≠ 0 then .halting h else .taking h qid rx []
  | .taking h qid rx [], (_, .memifRefillQueue queue count) =>
    if queue = qid ∧ count = rx then
      some fun err => if err ≠ .success then .halting h else .calling h
    else none
  | .halting h, (_, .stop) => some fun _ => .halting h
  | .halting h, (_, .pollReturn err) =>
    if err ≠ .success then some fun _ => .returned h err else none
  | .returned h err, (_, .keepRunning) =>
    some fun reading =>
      if reading then (if err.Fine then .looping h else .leaving h) else .stopped h
  | .stopped h, (_, .flushPcapWriter) => some fun _ => .flushed h
  | .flushed h, (s, .printf format args) =>
    if (format, args) = progressLine s ∨ (format, args) = ("\n", []) then
      some fun _ => .flushed h
    else none
  | .flushed h, (s, .beastieLog _ format args) =>
    if format ≠ summaryFormat then some fun _ => .flushed h
    else if args = summaryArgs s then some fun _ => .leaving h else none
  | .leaving h, (_, .detach) => some fun _ => .detached h
  | .detached h, (_, .closePcapWriter) => some fun _ => .closed h
  | .closed h, (_, .memifDelete) => if h.conn then some fun _ => .closed ⟨h.socket, false⟩ else none
  | .closed h, (_, .memifDeleteSocket) =>
    if h.socket ∧ ¬ h.conn then some fun _ => .closed ⟨false, false⟩ else none
  | phase, (_, .beastieLog _ format _) =>
    if format ≠ summaryFormat then
      match phase with
      | .looping h => some fun _ => .looping h
      | .calling h => some fun _ => .calling h
      | .halting h => some fun _ => .halting h
      | .leaving h => some fun _ => .leaving h
      | _ => none
    else none
  | _, _ => none

def captureProtocol (config : BeastieCaptureConfig) :
    Protocol (BeastieCaptureState × CaptureCall) (fun c => CaptureReply c.2) CapturePhase :=
  ⟨captureNext config⟩

/-- The variables that a capture never changes. -/
structure CaptureFixed (config : BeastieCaptureConfig) (s : BeastieCaptureState) : Prop where
  filename : s.pcapFilename = captureFilename config
  max : s.maxBytesToCapture = config.maxCaptureBytes
  id : s.currentMemifId = config.memifId
  socket : s.currentMemifSocketPath = (beastieCaptureStateInit config).currentMemifSocketPath

theorem captureFixed_init (config : BeastieCaptureConfig) :
    CaptureFixed config (beastieCaptureStateInit config) :=
  ⟨rfl, rfl, rfl, rfl⟩

section AnyProtocol
variable {Phase : Type}
  {P : Protocol (BeastieCaptureState × CaptureCall) (fun c => CaptureReply c.2) Phase}
  {R : CaptureTurn → Phase → Prop} {start : Phase} {config : BeastieCaptureConfig}
  {files : CString → FileContent} {ok : CaptureGuard}

/-- Where a turn ends, with the variables kept. -/
abbrev TurnEnds (config : BeastieCaptureConfig) (R : CaptureTurn → Phase → Prop) :
    Turn (CaptureHandles × BeastieCaptureState) (Int × BeastieCaptureState) → Phase → Prop :=
  Ends (fun x phase => CaptureFixed config x.2 ∧ R (.again x.1) phase)
    fun x phase => R (.exit x.1) phase

theorem speaks_withVars {m : CaptureM CaptureTurn} {phase : Phase}
    (hm : Speaks P (CaptureFixed config) R m phase) {s : BeastieCaptureState}
    (hs : CaptureFixed config s) : (withVars m s).Speaks P (TurnEnds config R) phase := by
  apply (hm s hs).bind
  rintro ⟨turn, s'⟩ phase' ⟨kept, here⟩
  cases turn with
  | again h => exact ⟨kept, here⟩
  | exit rc => exact here

/-- What the start and every pass speak, a capture speaks all along. -/
theorem captureRun_speaks (begins : Speaks P (CaptureFixed config) R captureStart start)
    (pass : ∀ h phase, R (.again h) phase → Speaks P (CaptureFixed config) R (capturePass h) phase)
    {x : CaptureConfiguration} (run : CaptureRun ok config files x) :
    ∃ phase, P.Passes start (events x.trace) phase ∧
      x.control.Speaks P (TurnEnds config R) phase := by
  apply Prog.Speaks.run ?_ run (.nil _) (speaks_withVars begins (captureFixed_init config))
  rintro ⟨h, s⟩ phase ⟨kept, here⟩
  exact speaks_withVars (pass h phase here) kept

end AnyProtocol

section Parts
variable {config : BeastieCaptureConfig}

/-- A part of the capture speaks the protocol from one phase to where `R` says. -/
abbrev Conducts (config : BeastieCaptureConfig) {α : Type} (R : α → CapturePhase → Prop)
    (m : CaptureM α) (phase : CapturePhase) : Prop :=
  Speaks (captureProtocol config) (CaptureFixed config) R m phase

/-! ## Reporting -/

/-- A phase in which lines other than the summary may be logged. -/
def Logs (config : BeastieCaptureConfig) (phase : CapturePhase) : Prop :=
  ∀ s level format args, format ≠ summaryFormat →
    captureNext config phase (s, .beastieLog level format args) = some fun _ => phase

theorem logs_looping (h : CaptureHandles) : Logs config (.looping h) :=
  fun _ _ _ _ other => if_pos other

theorem logs_calling (h : CaptureHandles) : Logs config (.calling h) :=
  fun _ _ _ _ other => if_pos other

theorem logs_halting (h : CaptureHandles) : Logs config (.halting h) :=
  fun _ _ _ _ other => if_pos other

theorem logs_leaving (h : CaptureHandles) : Logs config (.leaving h) :=
  fun _ _ _ _ other => if_pos other

theorem logs_flushed (h : CaptureHandles) : Logs config (.flushed h) :=
  fun _ _ _ _ other => if_pos other

theorem conducts_log {phase : CapturePhase} (logs : Logs config phase) {level : AppLogLevel}
    {format : String} {args : List PrintArg} (other : format ≠ summaryFormat) :
    Conducts config (fun _ phase' => phase' = phase) (beastieLog level format args) phase :=
  speaks_call fun s _ => logs s level format args other

theorem conducts_printCaptureProgress {phase : CapturePhase}
    (prints : ∀ s format args, (format, args) = progressLine s →
      captureNext config phase (s, .printf format args) = some fun _ => phase) :
    Conducts config (fun _ phase' => phase' = phase) printCaptureProgress phase := by
  apply speaks_vars_bind
  intro s hs
  split
  · rename_i limited
    exact ⟨_, prints s _ _ (if_pos limited).symm, fun _ => ⟨hs, rfl⟩⟩
  · rename_i unlimited
    exact ⟨_, prints s _ _ (if_neg unlimited).symm, fun _ => ⟨hs, rfl⟩⟩

/-! ## `on_interrupt` -/

/-- Behind a part of `on_interrupt`: it goes on in `phase`, or returns an error. -/
def Early (h : CaptureHandles) (phase : CapturePhase) : Option MemifErr → CapturePhase → Prop
  | none, phase' => phase' = phase
  | some err, phase' => err ≠ .success ∧ phase' = .halting h

/-- Behind `on_interrupt`. -/
def Answers (h : CaptureHandles) (err : MemifErr) (phase : CapturePhase) : Prop :=
  phase = if err ≠ .success then .halting h else .calling h

theorem conducts_stop_halting {α : Type} {h : CaptureHandles} {a : α} {R : α → CapturePhase → Prop}
    (ends : R a (.halting h)) :
    Conducts config R (call .stop >>= fun _ => pure a) (.halting h) := by
  refine Speaks.ask_bind (fun _ => .halting h) (fun _ _ => rfl) fun _ => ?_
  exact speaks_pure ends

theorem conducts_onInterruptLoop (h : CaptureHandles) (qid rx : Nat) (bufs : List MemifBuffer) :
    Conducts config (Early h (.taking h qid rx [])) (onInterruptLoop bufs)
      (.taking h qid rx bufs) := by
  induction bufs with
  | nil => exact speaks_pure rfl
  | cons buf bufs ih =>
    have stop (rest : List MemifBuffer) : Conducts config (Early h (.taking h qid rx []))
        (call .stop >>= fun _ => pure none) (.taking h qid rx rest) := by
      refine Speaks.ask_bind (fun _ => .taking h qid rx []) ?_ fun _ => speaks_pure rfl
      intro s _
      cases rest with
      | nil => rfl
      | cons => rfl
    apply Speaks.vars_bind
    intro s hs
    refine Speaks.ite (fun _ => stop _) fun _ => ?_
    refine Speaks.ask_bind
      (fun result : Int => if result ≠ 0 then .halting h else .taking h qid rx bufs)
      (fun _ _ => if_pos ⟨hs.filename, rfl⟩) fun result => ?_
    by_cases bad : result ≠ 0
    · simp only [if_pos bad]
      refine Speaks.seq (conducts_log (logs_halting h) (by decide)) fun _ => ?_
      exact conducts_stop_halting ⟨nofun, rfl⟩
    · simp only [if_neg bad]
      refine Speaks.update_bind (fun s hs => ⟨hs.filename, hs.max, hs.id, hs.socket⟩) ?_
      apply Speaks.vars_bind
      exact fun _ _ => Speaks.ite (fun _ => stop _) fun _ => ih

theorem conducts_onInterruptFlush {h : CaptureHandles} {phase : CapturePhase}
    (flushes : ∀ s, captureNext config phase (s, .flushPcapWriter) =
      some fun result : Int => if result ≠ 0 then .halting h else phase) :
    Conducts config (Early h phase) onInterruptFlush phase := by
  apply Speaks.vars_bind
  intro s hs
  refine Speaks.ite (fun _ => ?_) fun _ => speaks_pure rfl
  refine Speaks.ask_bind _ (fun s _ => flushes s) fun result => ?_
  by_cases bad : result ≠ 0
  · simp only [if_pos bad]
    refine Speaks.seq (conducts_log (logs_halting h) (by decide)) fun _ => ?_
    exact conducts_stop_halting ⟨nofun, rfl⟩
  · simp only [if_neg bad]
    exact Speaks.update_bind (fun s hs => ⟨hs.filename, hs.max, hs.id, hs.socket⟩) (speaks_pure rfl)

theorem conducts_onInterruptRefill (h : CaptureHandles) {qid rx : Nat} (some : 0 < rx) :
    Conducts config (Answers h) (onInterruptRefill qid rx) (.taking h qid rx []) := by
  refine Speaks.ite (fun _ => ?_) fun none => absurd some none
  refine Speaks.ask_bind (fun err : MemifErr => if err ≠ .success then .halting h else .calling h)
    (fun _ _ => if_pos ⟨rfl, rfl⟩) fun err => ?_
  by_cases failed : err ≠ .success
  · simp only [if_pos failed]
    refine Speaks.seq (conducts_log (logs_halting h) (by decide)) fun _ => ?_
    exact speaks_pure (if_pos failed).symm
  · simp only [if_neg failed]
    exact speaks_pure rfl

/-- With an empty burst nothing was taken, and only a flush may follow. -/
theorem conducts_onInterruptEnd_none (h : CaptureHandles) (qid : Nat) :
    Conducts config (Answers h) (onInterruptEnd qid 0) (.calling h) := by
  have silent : Conducts config (fun _ phase' => phase' = .calling h)
      (whenever (0 < 0) printCaptureProgress) (.calling h) :=
    Speaks.ite (fun some => absurd some (Nat.lt_irrefl 0)) fun _ => speaks_pure rfl
  refine Speaks.seq silent fun _ => ?_
  refine Speaks.bind (conducts_onInterruptFlush fun _ => rfl) fun early phase' ended => ?_
  cases early with
  | none =>
    cases ended
    exact Speaks.ite (fun some => absurd some (Nat.lt_irrefl 0)) fun _ => speaks_pure rfl
  | some err =>
    obtain ⟨failed, rfl⟩ := ended
    exact speaks_pure (if_pos failed).symm

theorem conducts_onInterruptEnd (h : CaptureHandles) {qid rx : Nat} (some : 0 < rx) :
    Conducts config (Answers h) (onInterruptEnd qid rx) (.taking h qid rx []) := by
  have progress : Conducts config (fun _ phase' => phase' = .taking h qid rx [])
      (whenever (0 < rx) printCaptureProgress) (.taking h qid rx []) :=
    Speaks.ite (fun _ => conducts_printCaptureProgress fun _ _ _ shown => if_pos shown)
      fun none => absurd some none
  refine Speaks.seq progress fun _ => ?_
  refine Speaks.bind (conducts_onInterruptFlush fun _ => rfl) fun early phase' ended => ?_
  cases early with
  | none =>
    cases ended
    exact conducts_onInterruptRefill h some
  | some err =>
    obtain ⟨failed, rfl⟩ := ended
    exact speaks_pure (if_pos failed).symm

theorem conducts_onInterrupt (h : CaptureHandles) (qid : Nat) :
    Conducts config (Answers h) (onInterrupt qid) (.calling h) := by
  refine Speaks.ask_bind (fun burst : MemifBurst =>
    if burst.err ≠ .success then .halting h
    else if burst.bufs = [] then .calling h else .taking h qid burst.bufs.length burst.bufs)
    (fun _ _ => rfl) fun burst => ?_
  by_cases failed : burst.err ≠ .success
  · simp only [if_pos failed]
    refine Speaks.seq (conducts_log (logs_halting h) (by decide)) fun _ => ?_
    exact speaks_pure (if_pos failed).symm
  · simp only [if_neg failed]
    by_cases none : burst.bufs = []
    · rw [if_pos none, none]
      exact conducts_onInterruptEnd_none h qid
    · rw [if_neg none]
      refine Speaks.bind (conducts_onInterruptLoop h qid _ _) fun early phase' ended => ?_
      cases early with
      | none =>
        cases ended
        exact conducts_onInterruptEnd h (List.length_pos_of_ne_nil none)
      | some err =>
        obtain ⟨failed, rfl⟩ := ended
        exact speaks_pure (if_pos failed).symm

/-! ## A poll -/

theorem conducts_onConnect (h : CaptureHandles) :
    Conducts config (fun _ phase' => phase' = .calling h) onConnect (.calling h) := by
  apply Speaks.vars_bind
  intro s _
  refine Speaks.seq (conducts_log (logs_calling h) (by decide)) fun _ => ?_
  have refill : Conducts config (fun _ phase' => phase' = .calling h)
      (call (.memifRefillQueue 0 (2 ^ 16 - 1))) (.calling h) := speaks_call fun _ _ => rfl
  refine Speaks.seq refill fun err => ?_
  refine Speaks.ite (fun _ => ?_) fun _ => speaks_pure rfl
  exact Speaks.seq (conducts_log (logs_calling h) (by decide)) fun _ => speaks_pure rfl

theorem conducts_onDisconnect (h : CaptureHandles) :
    Conducts config (fun _ phase' => phase' = .calling h) onDisconnect (.calling h) :=
  Speaks.seq (conducts_log (logs_calling h) (by decide)) fun _ =>
    speaks_call fun _ _ => rfl

theorem conducts_pollCallbacks (h : CaptureHandles) (callbacks : List MemifCallback) :
    Conducts config (Early h (.calling h)) (pollCallbacks callbacks) (.calling h) := by
  induction callbacks with
  | nil => exact speaks_pure rfl
  | cons callback rest ih =>
    cases callback with
    | connect => exact Speaks.seq (conducts_onConnect h) fun _ => ih
    | disconnect => exact Speaks.seq (conducts_onDisconnect h) fun _ => ih
    | interrupt qid =>
      refine Speaks.bind (conducts_onInterrupt h qid) fun err phase' answered => ?_
      by_cases failed : err ≠ .success
      · rw [if_pos failed]
        exact speaks_pure ⟨failed, answered.trans (if_pos failed)⟩
      · rw [if_neg failed, answered.trans (if_neg failed)]
        exact ih

theorem conducts_memifPollEvent (h : CaptureHandles) :
    Conducts config (fun err phase' => phase' = .returned h err) memifPollEvent (.running h) := by
  refine Speaks.ask_bind (fun _ => .polling h) (fun _ _ => rfl) fun _ => ?_
  refine Speaks.ask_bind (fun _ => .calling h) (fun _ _ => rfl) fun poll => ?_
  refine Speaks.bind (conducts_pollCallbacks h poll.callbacks) fun failed phase' ended => ?_
  cases failed with
  | none =>
    cases ended
    exact Speaks.ask_bind (fun _ => .returned h poll.err) (fun _ _ => rfl) fun _ => speaks_pure rfl
  | some err =>
    obtain ⟨bad, rfl⟩ := ended
    exact Speaks.ask_bind (fun _ => .returned h err) (fun _ _ => if_pos bad) fun _ =>
      speaks_pure rfl

/-! ## The main loop -/

/-- Behind a return: nothing is left. -/
def Over (rc : Int) (phase : CapturePhase) : Prop :=
  (rc = 0 ∨ rc = 1) ∧ phase = .closed ⟨false, false⟩

theorem conducts_captureCleanup (h : CaptureHandles) :
    Conducts config (fun _ phase' => phase' = .closed ⟨false, false⟩) (captureCleanup h)
      (.leaving h) := by
  refine Speaks.ask_bind (fun _ => .detached h) (fun _ _ => rfl) fun _ => ?_
  refine Speaks.ask_bind (fun _ => .closed h) (fun _ _ => rfl) fun _ => ?_
  have delete : Conducts config (fun _ phase' => phase' = .closed ⟨h.socket, false⟩)
      (whenever h.conn (call .memifDelete)) (.closed h) := by
    obtain ⟨socket, conn⟩ := h
    cases conn with
    | true => exact speaks_call fun _ _ => rfl
    | false => exact speaks_pure rfl
  refine Speaks.seq delete fun _ => ?_
  obtain ⟨socket, conn⟩ := h
  cases socket with
  | true => exact speaks_call fun _ _ => rfl
  | false => exact speaks_pure rfl

theorem conducts_captureFlush (h : CaptureHandles) :
    Conducts config (fun rc phase' => (rc = 0 ∨ rc = 1) ∧ phase' = .flushed h) captureFlush
      (.stopped h) := by
  apply Speaks.vars_bind
  intro s _
  refine Speaks.ask_bind (fun _ => .flushed h) (fun _ _ => rfl) fun result => ?_
  refine Speaks.ite (fun _ => ?_) fun _ => speaks_pure ⟨.inl rfl, rfl⟩
  exact Speaks.seq (conducts_log (logs_flushed h) (by decide)) fun _ => speaks_pure ⟨.inr rfl, rfl⟩

theorem conducts_printCaptureSummary (h : CaptureHandles) :
    Conducts config (fun _ phase' => phase' = .leaving h) printCaptureSummary (.flushed h) := by
  have progress : Conducts config (fun _ phase' => phase' = .flushed h) printCaptureProgress
    (.flushed h) :=
    conducts_printCaptureProgress fun _ _ _ shown => if_pos (.inl shown)
  refine Speaks.seq progress fun _ => ?_
  refine Speaks.ask_bind (fun _ => .flushed h) (fun _ _ => if_pos (.inr rfl)) fun _ => ?_
  apply speaks_vars_bind
  intro s hs
  have told : captureNext config (.flushed h) (s, .beastieLog .info summaryFormat (summaryArgs s)) =
      some fun _ => .leaving h := by
    simp only [captureNext, ne_eq, not_true_eq_false, ↓reduceIte]
  exact ⟨_, told, fun _ => ⟨hs, rfl⟩⟩

theorem conducts_captureFinish (h : CaptureHandles) :
    Conducts config Over (captureFinish h) (.stopped h) := by
  refine Speaks.bind (conducts_captureFlush h) ?_
  rintro rc _ ⟨code, rfl⟩
  refine Speaks.seq (conducts_printCaptureSummary h) fun _ => ?_
  exact Speaks.seq (conducts_captureCleanup h) fun _ => speaks_pure ⟨code, rfl⟩

theorem conducts_captureAbort (h : CaptureHandles) (err : MemifErr) :
    Conducts config (fun _ phase' => phase' = .closed ⟨false, false⟩) (captureAbort h err)
      (.leaving h) :=
  Speaks.seq (conducts_log (logs_leaving h) (by decide)) fun _ => conducts_captureCleanup h

/-- Behind the set-up: at the loop test, or about to leave. -/
theorem conducts_captureSetUp :
    Conducts config
      (fun made phase' => phase' = if made.2 then .looping made.1 else .leaving made.1)
      captureSetUp .fresh := by
  apply Speaks.vars_bind
  intro s hs
  refine Speaks.ask_bind (fun made : MemifCreated =>
    if made.err ≠ .success then .leaving ⟨made.handle, false⟩ else .joining made.handle)
    (fun _ _ => if_pos ⟨congrArg (snprintf memifSocketPathSize) hs.socket, rfl⟩) fun socket => ?_
  by_cases failed : socket.err ≠ .success
  · simp only [if_pos failed]
    exact Speaks.seq (conducts_log (logs_leaving _) (by decide)) fun _ => speaks_pure rfl
  simp only [if_neg failed]
  refine Speaks.ask_bind (fun made : MemifCreated =>
    if made.err ≠ .success then .leaving ⟨socket.handle, made.handle⟩
    else .looping ⟨socket.handle, made.handle⟩)
    (fun _ _ => if_pos ⟨hs.id, rfl⟩) fun conn => ?_
  by_cases failed : conn.err ≠ .success
  · simp only [if_pos failed]
    exact Speaks.seq (conducts_log (logs_leaving _) (by decide)) fun _ => speaks_pure rfl
  simp only [if_neg failed]
  have log {level : AppLogLevel} {format : String} {args : List PrintArg}
      (other : format ≠ summaryFormat) :
      Conducts config (fun _ phase' => phase' = .looping ⟨socket.handle, conn.handle⟩)
        (beastieLog level format args) (.looping ⟨socket.handle, conn.handle⟩) :=
    conducts_log (logs_looping _) other
  refine Speaks.seq (log (by decide)) fun _ => Speaks.seq (log (by decide)) fun _ => ?_
  refine Speaks.seq (log (by decide)) fun _ => ?_
  refine Speaks.seq (Speaks.ite (fun _ => log (by decide)) fun _ => speaks_pure rfl) fun _ => ?_
  refine Speaks.seq (log (by decide)) fun _ => Speaks.seq (log (by decide)) fun _ => ?_
  exact Speaks.seq (log (by decide)) fun _ => speaks_pure rfl

/-- At the loop test, or over. -/
def AtTest : CaptureTurn → CapturePhase → Prop
  | .again h, phase => phase = .looping h
  | .exit rc, phase => Over rc phase

theorem conducts_captureStart : Conducts config AtTest captureStart .fresh := by
  refine Speaks.bind conducts_captureSetUp ?_
  rintro ⟨h, ready⟩ _ rfl
  cases ready with
  | true => exact speaks_pure rfl
  | false => exact Speaks.seq (conducts_captureCleanup h) fun _ => speaks_pure ⟨.inr rfl, rfl⟩

theorem conducts_capturePass (h : CaptureHandles) :
    Conducts config AtTest (capturePass h) (.looping h) := by
  have finish : Conducts config AtTest (captureFinish h >>= fun rc => pure (.exit rc))
    (.stopped h) :=
    Speaks.bind (conducts_captureFinish h) fun _ _ gone => speaks_pure gone
  refine Speaks.ask_bind (fun reading : Bool => if reading then .running h else .stopped h)
    (fun _ _ => rfl) fun reading => ?_
  cases reading with
  | false => exact finish
  | true =>
    refine Speaks.bind (conducts_memifPollEvent h) ?_
    rintro err _ rfl
    refine Speaks.ask_bind (fun reading : Bool =>
      if reading then (if err.Fine then .looping h else .leaving h) else .stopped h)
        (fun _ _ => rfl) fun reading => ?_
    cases reading with
    | false => exact finish
    | true =>
      by_cases failed : err ≠ .success ∧ err ≠ .pollCancel
      · have leaving : ¬ err.Fine := not_not.2 failed
        simp only [↓reduceIte, if_pos failed, if_neg leaving]
        exact Speaks.seq (conducts_captureAbort h err) fun _ => speaks_pure ⟨.inr rfl, rfl⟩
      · have fine : err.Fine := failed
        simp only [↓reduceIte, if_neg failed, if_pos fine]
        exact speaks_pure rfl

end Parts

/-! ## What is made is taken back -/

def socketMade : CaptureEvent → Bool
  | ⟨(_, .memifCreateSocket ..), made⟩ => made.handle
  | _ => false

def socketDeleted (e : CaptureEvent) : Bool := e.call.2 matches .memifDeleteSocket

def connMade : CaptureEvent → Bool
  | ⟨(_, .memifCreate ..), made⟩ => made.handle
  | _ => false

def connDeleted (e : CaptureEvent) : Bool := e.call.2 matches .memifDelete

/-- The handles that were made and not deleted are those of the phase. -/
structure HandleBalance (phase : CapturePhase) (tr : List CaptureEvent) : Prop where
  socket : tr.countP socketMade = tr.countP socketDeleted + phase.handles.socket.toNat
  conn : tr.countP connMade = tr.countP connDeleted + phase.handles.conn.toNat

section Balance
variable {config : BeastieCaptureConfig} {phase : CapturePhase} {tr : List CaptureEvent}

theorem handles_next {e : CaptureEvent} {behind : CaptureReply e.call.2 → CapturePhase}
    (allowed : captureNext config phase e.call = some behind) :
    (behind e.reply).handles.socket.toNat + (socketDeleted e).toNat =
        phase.handles.socket.toNat + (socketMade e).toNat ∧
      (behind e.reply).handles.conn.toNat + (connDeleted e).toNat =
        phase.handles.conn.toNat + (connMade e).toNat := by
  obtain ⟨c, r⟩ := e
  simp only at allowed behind
  unfold captureNext at allowed
  split at allowed
  all_goals
    repeat' split at allowed
  all_goals cases allowed
  all_goals
    dsimp only
    repeat' split
  -- Only the two constructors and the two destructors touch a handle.
  all_goals first
    | exact ⟨rfl, rfl⟩
    | simp_all [CapturePhase.handles, socketMade, socketDeleted, connMade, connDeleted]

theorem HandleBalance.next {e : CaptureEvent} {behind : CaptureReply e.call.2 → CapturePhase}
    (allowed : captureNext config phase e.call = some behind) (h : HandleBalance phase tr) :
    HandleBalance (behind e.reply) (tr ++ [e]) := by
  obtain ⟨sockets, conns⟩ := handles_next allowed
  have once (p : CaptureEvent → Bool) : (tr ++ [e]).countP p = tr.countP p + (p e).toNat := by
    rw [List.countP_append, List.countP_singleton]
    cases p e with
    | true => rfl
    | false => rfl
  constructor
  · rw [once, once, h.socket]
    omega
  · rw [once, once, h.conn]
    omega

theorem handleBalance_of_passes (passes : (captureProtocol config).Passes .fresh tr phase) :
    HandleBalance phase tr := by
  have start : HandleBalance .fresh [] := ⟨rfl, rfl⟩
  exact passes.keeps (fun _ _ _ _ allowed balanced => balanced.next allowed) start

end Balance

/-! ## The session -/

section Runs
variable {config : BeastieCaptureConfig} {files : CString → FileContent} {ok : CaptureGuard}

/-- Every call of a run so far was allowed, and so are those to come. -/
theorem capture_speaks {x : CaptureConfiguration} (run : CaptureRun ok config files x) :
    ∃ phase, (captureProtocol config).Passes .fresh (events x.trace) phase ∧
      x.control.Speaks (captureProtocol config) (TurnEnds config AtTest) phase := by
  refine captureRun_speaks conducts_captureStart ?_ run
  rintro h _ rfl
  exact conducts_capturePass h

/-- **The session of a capture.** In every state of every run, whenever signals
come and whatever libmemif and the file system reply, the calls made so far follow
the protocol; the handles made and not deleted are those of its phase; and a run
that is over has deleted what it made, and returned 0 or 1. -/
theorem capture_session {x : CaptureConfiguration} (run : CaptureRun ok config files x) :
    ∃ phase, (captureProtocol config).Passes .fresh (events x.trace) phase ∧
      HandleBalance phase (events x.trace) ∧
      ∀ rc s, x.control = .done (.exit (rc, s)) → (rc = 0 ∨ rc = 1) ∧
        phase = .closed ⟨false, false⟩ ∧
        (events x.trace).countP socketMade = (events x.trace).countP socketDeleted ∧
        (events x.trace).countP connMade = (events x.trace).countP connDeleted := by
  obtain ⟨phase, passes, speaks⟩ := capture_speaks run
  have balance := handleBalance_of_passes passes
  refine ⟨phase, passes, balance, fun rc s returned => ?_⟩
  rw [returned] at speaks
  obtain ⟨code, rfl⟩ := speaks
  exact ⟨code, rfl, balance.socket, balance.conn⟩

/-- Three packets, one a poll. -/
theorem session_of_three : ∃ x s, CaptureRun Guard.free (defaultCapture 0 (by decide))
    (fun _ => .absent) x ∧
    x.control = .done (.exit (0, s)) ∧
    (events x.trace).countP socketMade = (events x.trace).countP socketDeleted := by
  obtain ⟨x, s, run, returned, _, _⟩ := empty_packets_return 1 3 (by decide) fun _ => .absent
  obtain ⟨_, _, _, behind⟩ := capture_session run
  exact ⟨x, s, run, returned, (behind 0 s returned).2.2.1⟩

end Runs

end BeastieBoy
