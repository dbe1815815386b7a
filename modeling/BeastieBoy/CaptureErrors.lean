import BeastieBoy.CaptureSession

/-!
# Every failure of a capture is reported

Behind a call that failed comes the message about it, before anything else is
called, and no other error is reported. A capture that returns 1 has reported one.
-/

namespace BeastieBoy

open CLib Interact Local

/-- The arguments are the ones that the format asks for. -/
def fitsFormat : CString → List PrintArg → Bool
  | [], args => args.isEmpty
  | '%' :: '%' :: format, args => fitsFormat format args
  | '%' :: 's' :: format, .str _ :: args => fitsFormat format args
  | '%' :: 's' :: format, .strerror _ :: args => fitsFormat format args
  | '%' :: 'u' :: format, .u32 _ :: args => fitsFormat format args
  | '%' :: 'l' :: 'u' :: format, .u64 _ :: args => fitsFormat format args
  | '%' :: '.' :: '1' :: 'f' :: format, .percent _ _ :: args => fitsFormat format args
  | '%' :: _, _ => false
  | _ :: format, args => fitsFormat format args

abbrev ErrorMessage := String × List PrintArg

def CaptureCall.errorOf : CaptureCall → Option ErrorMessage
  | .beastieLog .error format args => some (format, args)
  | _ => none

def CaptureCall.fitting : CaptureCall → Bool
  | .beastieLog _ format args => fitsFormat format.toList args
  | .printf format args => fitsFormat format.toList args
  | _ => true

/-- The message about a call that failed. A poll has none yet: `keep_running` is
read first. -/
def failureOf (config : BeastieCaptureConfig) : CaptureEvent → Option ErrorMessage
  | ⟨(_, .memifCreateSocket ..), made⟩ =>
    if made.err ≠ .success then some ("memif_create_socket: %s", [.strerror made.err]) else none
  | ⟨(_, .memifCreate ..), made⟩ =>
    if made.err ≠ .success then some ("memif_create: %s", [.strerror made.err]) else none
  | ⟨(_, .memifRxBurst ..), burst⟩ =>
    if burst.err ≠ .success then some ("memif_rx_burst: %s", [.strerror burst.err]) else none
  | ⟨(_, .memifRefillQueue ..), err⟩ =>
    if (err : MemifErr) ≠ .success then some ("memif_refill_queue: %s", [.strerror err]) else none
  | ⟨(_, .writePcapPacket filename _), result⟩ =>
    if (result : Int) ≠ 0 then some ("write_pcap_packet failed for output %s", [.str filename])
    else none
  | ⟨(_, .flushPcapWriter), result⟩ =>
    if (result : Int) ≠ 0 then
      some ("flush_pcap_writer failed for output %s", [.str (captureFilename config)])
    else none
  | _ => none

/-- A poll that failed, when the loop would go on. -/
def pollFailure (poll : MemifErr) (reading : Bool) : Option ErrorMessage :=
  if reading = true ∧ ¬ poll.Fine then some ("memif_poll_event: %s", [.strerror poll]) else none

/-- What the poll returned right before, the latest call first. -/
def lastPoll : List CaptureEvent → MemifErr
  | ⟨(_, .pollReturn err), _⟩ :: _ => err
  | _ => .success

/-- The message that comes next, behind the calls so far, the latest first. -/
def owed (config : BeastieCaptureConfig) : List CaptureEvent → Option ErrorMessage
  | ⟨(_, .keepRunning), reading⟩ :: before => pollFailure (lastPoll before) reading
  | e :: _ => failureOf config e
  | [] => none

structure Reporting where
  due : Option ErrorMessage
  poll : MemifErr
  reported : Bool

/-- Nothing is due. -/
def settled (reported : Bool) : Reporting := ⟨none, .success, reported⟩

def Reporting.after (config : BeastieCaptureConfig) (phase : Reporting) : CaptureEvent → Reporting
  | ⟨(_, .beastieLog .error ..), _⟩ => settled true
  | ⟨(_, .pollReturn err), _⟩ => ⟨none, err, phase.reported⟩
  | ⟨(_, .keepRunning), reading⟩ => ⟨pollFailure phase.poll reading, .success, phase.reported⟩
  | e => ⟨failureOf config e, .success, phase.reported⟩

/-- A call reports the error that is due, and no other. -/
def reportProtocol (config : BeastieCaptureConfig) :
    Protocol (BeastieCaptureState × CaptureCall) (fun c => CaptureReply c.2) Reporting where
  next phase c :=
    if c.2.errorOf = phase.due ∧ c.2.fitting = true then some fun r => phase.after config ⟨c, r⟩
    else none

theorem next_eq_some {config : BeastieCaptureConfig} {phase : Reporting}
    {c : BeastieCaptureState × CaptureCall} {behind : CaptureReply c.2 → Reporting}
    (allowed : (reportProtocol config).next phase c = some behind) :
    (c.2.errorOf = phase.due ∧ c.2.fitting = true) ∧
    behind = fun r => phase.after config ⟨c, r⟩ := by
  simp only [reportProtocol] at allowed
  split at allowed
  · rename_i here
    exact ⟨here, (Option.some.inj allowed).symm⟩
  · cases allowed

section Parts
variable {config : BeastieCaptureConfig} {b : Bool}

abbrev Explains (config : BeastieCaptureConfig) {α : Type} (R : α → Reporting → Prop)
    (m : CaptureM α) (phase : Reporting) : Prop :=
  Speaks (reportProtocol config) (CaptureFixed config) R m phase

/-- Behind it nothing is due. -/
abbrev Settles (config : BeastieCaptureConfig) {α : Type} (m : CaptureM α)
    (phase : Reporting) : Prop :=
  Explains config (fun _ phase' => ∃ b, phase' = settled b) m phase

/-- It reports no error, and leaves none to report. -/
abbrev Uneventful (config : BeastieCaptureConfig) {α : Type} (b : Bool) (m : CaptureM α) : Prop :=
  Explains config (fun _ phase' => phase' = settled b) m (settled b)

theorem uneventful_log {level : AppLogLevel} (other : level ≠ .error) {format : String}
    {args : List PrintArg} (fits : fitsFormat format.toList args = true) :
    Uneventful config b (beastieLog level format args) := by
  apply speaks_call
  intro _ _
  cases level with
  | error => exact absurd rfl other
  | warning => exact if_pos ⟨rfl, fits⟩
  | info => exact if_pos ⟨rfl, fits⟩
  | debug => exact if_pos ⟨rfl, fits⟩

theorem explains_error {format : String} {args : List PrintArg}
    (fits : fitsFormat format.toList args = true) :
    Explains config (fun _ phase' => phase' = settled true) (beastieLog .error format args)
      ⟨some (format, args), .success, b⟩ :=
  speaks_call fun _ _ => if_pos ⟨rfl, fits⟩

theorem settles_error {format : String} {args : List PrintArg}
    (fits : fitsFormat format.toList args = true) {α : Type} (a : α) :
    Settles config (beastieLog .error format args >>= fun _ => pure a)
      ⟨some (format, args), .success, b⟩ :=
  Speaks.seq (explains_error fits) fun _ => speaks_pure ⟨true, rfl⟩

theorem uneventful_printCaptureProgress : Uneventful config b printCaptureProgress := by
  apply speaks_vars_bind
  intro s hs
  split
  · exact ⟨_, rfl, fun _ => ⟨hs, rfl⟩⟩
  · exact ⟨_, rfl, fun _ => ⟨hs, rfl⟩⟩

/-- Stopping the loop is nothing to report. -/
theorem settles_stop {α : Type} (a : α) :
    Settles config (call .stop >>= fun _ => pure a) (settled b) := by
  refine Speaks.ask_bind (fun _ => settled b) (fun _ _ => rfl) fun _ => ?_
  exact speaks_pure ⟨b, rfl⟩

/-- An error, and the loop is stopped. -/
theorem settles_error_stop {format : String} {args : List PrintArg}
    (fits : fitsFormat format.toList args = true) {α : Type} (a : α) :
    Settles config (do beastieLog .error format args; call .stop; pure a)
      ⟨some (format, args), .success, b⟩ :=
  Speaks.seq (explains_error fits) fun _ => settles_stop a

/-- Behind a call that may fail. -/
def owing (failed : Prop) [Decidable failed] (message : ErrorMessage) (b : Bool) : Reporting :=
  ⟨if failed then some message else none, .success, b⟩

/-- A call that may fail: the report, or on with the rest. -/
theorem explains_failing {α : Type} {c : CaptureCall} {f : CaptureReply c → CaptureM α}
    {T : α → Reporting → Prop} (failed : CaptureReply c → Prop) [DecidablePred failed]
    (message : CaptureReply c → ErrorMessage)
    (allowed : ∀ s, CaptureFixed config s →
      (reportProtocol config).next (settled b) (s, c) =
        some fun r => owing (failed r) (message r) b)
    (report : ∀ r, failed r → Explains config T (f r) ⟨some (message r), .success, b⟩)
    (rest : ∀ r, ¬ failed r → Explains config T (f r) (settled b)) :
    Explains config T (call c >>= f) (settled b) := by
  refine Speaks.ask_bind (fun r => owing (failed r) (message r) b) allowed fun r => ?_
  by_cases bad : failed r
  · rw [owing, if_pos bad]
    exact report r bad
  · rw [owing, if_neg bad]
    exact rest r bad

/-! ## `on_interrupt` -/

theorem settles_onInterruptLoop (bufs : List MemifBuffer) :
    Settles config (onInterruptLoop bufs) (settled b) := by
  induction bufs with
  | nil => exact speaks_pure ⟨b, rfl⟩
  | cons buf bufs ih =>
    apply Speaks.vars_bind
    intro s _
    refine Speaks.ite (fun _ => settles_stop _) fun _ => ?_
    refine explains_failing (fun result : Int => result ≠ 0)
      (fun _ => ("write_pcap_packet failed for output %s", [.str s.pcapFilename]))
      (fun _ _ => rfl) ?_ ?_
    · intro result bad
      rw [if_pos bad]
      exact settles_error_stop (by rfl) _
    · intro result fine
      rw [if_neg fine]
      refine Speaks.update_bind (fun s hs => ⟨hs.filename, hs.max, hs.id, hs.socket⟩) ?_
      apply Speaks.vars_bind
      exact fun _ _ => Speaks.ite (fun _ => settles_stop _) fun _ => ih

theorem settles_onInterruptFlush : Settles config onInterruptFlush (settled b) := by
  apply Speaks.vars_bind
  intro s hs
  refine Speaks.ite (fun _ => ?_) fun _ => speaks_pure ⟨b, rfl⟩
  refine explains_failing (fun result : Int => result ≠ 0)
    (fun _ => ("flush_pcap_writer failed for output %s", [.str (captureFilename config)]))
    (fun _ _ => rfl) ?_ ?_
  · intro result bad
    rw [if_pos bad, hs.filename]
    exact settles_error_stop (by rfl) _
  · intro result fine
    rw [if_neg fine]
    exact Speaks.update_bind (fun s hs => ⟨hs.filename, hs.max, hs.id, hs.socket⟩)
      (speaks_pure ⟨b, rfl⟩)

/-- A failed refill, of a callback or behind a connection. -/
theorem settles_refill (qid count : Nat) : Settles config (do
    let err : MemifErr ← call (.memifRefillQueue qid count)
    if err ≠ .success then
      beastieLog .error "memif_refill_queue: %s" [.strerror err]
      pure err
    else
      pure .success) (settled b) := by
  refine explains_failing (fun err : MemifErr => err ≠ .success)
    (fun err => ("memif_refill_queue: %s", [.strerror err])) (fun _ _ => rfl) ?_ ?_
  · intro err bad
    rw [if_pos bad]
    exact settles_error (by rfl) _
  · intro err fine
    rw [if_neg fine]
    exact speaks_pure ⟨b, rfl⟩

theorem settles_onInterruptEnd (qid rx : Nat) :
    Settles config (onInterruptEnd qid rx) (settled b) := by
  have progress : Uneventful config b (whenever (0 < rx) printCaptureProgress) :=
    Speaks.ite (fun _ => uneventful_printCaptureProgress) fun _ => speaks_pure rfl
  refine Speaks.seq progress fun _ => ?_
  refine Speaks.bind settles_onInterruptFlush ?_
  rintro early _ ⟨b', rfl⟩
  cases early with
  | some err => exact speaks_pure ⟨b', rfl⟩
  | none => exact Speaks.ite (fun _ => settles_refill qid rx) fun _ => speaks_pure ⟨b', rfl⟩

theorem settles_onInterrupt (qid : Nat) : Settles config (onInterrupt qid) (settled b) := by
  refine explains_failing (fun burst : MemifBurst => burst.err ≠ .success)
    (fun burst => ("memif_rx_burst: %s", [.strerror burst.err])) (fun _ _ => rfl) ?_ ?_
  · intro burst bad
    rw [if_pos bad]
    exact settles_error (by rfl) _
  · intro burst fine
    rw [if_neg fine]
    refine Speaks.bind (settles_onInterruptLoop burst.bufs) ?_
    rintro early _ ⟨b', rfl⟩
    cases early with
    | some err => exact speaks_pure ⟨b', rfl⟩
    | none => exact settles_onInterruptEnd _ _

/-! ## A poll -/

theorem settles_onConnect : Settles config onConnect (settled b) := by
  apply Speaks.vars_bind
  intro s _
  exact Speaks.seq (uneventful_log (by decide) (by rfl)) fun _ => settles_refill _ _

theorem settles_onDisconnect : Settles config onDisconnect (settled b) := by
  refine Speaks.seq (uneventful_log (by decide) (by rfl)) fun _ => ?_
  have cancel : Uneventful config b (call .memifCancelPollEvent) := speaks_call fun _ _ => rfl
  exact cancel.mono fun _ _ same => ⟨b, same⟩

theorem settles_pollCallbacks (callbacks : List MemifCallback) :
    Settles config (pollCallbacks callbacks) (settled b) := by
  induction callbacks generalizing b with
  | nil => exact speaks_pure ⟨b, rfl⟩
  | cons callback rest ih =>
    cases callback with
    | connect =>
      refine Speaks.bind settles_onConnect ?_
      rintro _ _ ⟨b', rfl⟩
      exact ih
    | disconnect =>
      refine Speaks.bind settles_onDisconnect ?_
      rintro _ _ ⟨b', rfl⟩
      exact ih
    | interrupt qid =>
      refine Speaks.bind (settles_onInterrupt qid) ?_
      rintro err _ ⟨b', rfl⟩
      exact Speaks.ite (fun _ => speaks_pure ⟨b', rfl⟩) fun _ => ih

/-- What the poll returned is remembered. -/
theorem explains_memifPollEvent :
    Explains config (fun err phase' => ∃ b, phase' = ⟨none, err, b⟩) memifPollEvent
      (settled b) := by
  refine Speaks.ask_bind (fun _ => settled b) (fun _ _ => rfl) fun _ => ?_
  refine Speaks.ask_bind (fun _ => settled b) (fun _ _ => rfl) fun poll => ?_
  refine Speaks.bind (settles_pollCallbacks poll.callbacks) ?_
  rintro failed _ ⟨b', rfl⟩
  refine Speaks.ask_bind (fun _ => ⟨none, failed.getD poll.err, b'⟩) (fun _ _ => rfl) fun _ => ?_
  exact speaks_pure ⟨b', rfl⟩

/-! ## The main loop -/

/-- Behind a return: an error was reported if it is 1. -/
def Explained (rc : Int) (phase : Reporting) : Prop := ∃ b, phase = settled b ∧ (rc ≠ 0 → b = true)

theorem uneventful_captureCleanup (h : CaptureHandles) :
    Uneventful config b (captureCleanup h) := by
  refine Speaks.ask_bind (fun _ => settled b) (fun _ _ => rfl) fun _ => ?_
  refine Speaks.ask_bind (fun _ => settled b) (fun _ _ => rfl) fun _ => ?_
  have delete : Uneventful config b (whenever h.conn (call .memifDelete)) :=
    Speaks.ite (fun _ => speaks_call fun _ _ => rfl) fun _ => speaks_pure rfl
  refine Speaks.seq delete fun _ => ?_
  exact Speaks.ite (fun _ => speaks_call fun _ _ => rfl) fun _ => speaks_pure rfl

theorem explains_captureFlush : Explains config Explained captureFlush (settled b) := by
  apply Speaks.vars_bind
  intro s hs
  refine explains_failing (fun result : Int => result ≠ 0)
    (fun _ => ("flush_pcap_writer failed for output %s", [.str (captureFilename config)]))
    (fun _ _ => rfl) ?_ ?_
  · intro result bad
    rw [if_pos bad, hs.filename]
    exact Speaks.seq (explains_error (by rfl)) fun _ => speaks_pure ⟨true, rfl, fun _ => rfl⟩
  · intro result fine
    rw [if_neg fine]
    exact speaks_pure ⟨b, rfl, fun failed => absurd rfl failed⟩

theorem uneventful_printCaptureSummary : Uneventful config b printCaptureSummary := by
  refine Speaks.seq uneventful_printCaptureProgress fun _ => ?_
  refine Speaks.ask_bind (fun _ => settled b) (fun _ _ => rfl) fun _ => ?_
  exact Speaks.vars_bind fun _ _ => uneventful_log (by decide) (by rfl)

theorem explains_captureFinish (h : CaptureHandles) :
    Explains config Explained (captureFinish h) (settled b) := by
  refine Speaks.bind explains_captureFlush ?_
  rintro rc _ ⟨b', rfl, told⟩
  refine Speaks.seq uneventful_printCaptureSummary fun _ => ?_
  exact Speaks.seq (uneventful_captureCleanup h) fun _ => speaks_pure ⟨b', rfl, told⟩

/-- Behind the set-up: at the loop test, or with a report. -/
theorem explains_captureSetUp :
    Explains config (fun made phase' => ∃ b, phase' = settled b ∧ (made.2 = false → b = true))
      captureSetUp (settled false) := by
  apply Speaks.vars_bind
  intro s hs
  refine explains_failing (fun made : MemifCreated => made.err ≠ .success)
    (fun made => ("memif_create_socket: %s", [.strerror made.err])) (fun _ _ => rfl) ?_ ?_
  · intro socket bad
    rw [if_pos bad]
    exact Speaks.seq (explains_error (by rfl)) fun _ => speaks_pure ⟨true, rfl, fun _ => rfl⟩
  intro socket fine
  rw [if_neg fine]
  refine explains_failing (fun made : MemifCreated => made.err ≠ .success)
    (fun made => ("memif_create: %s", [.strerror made.err])) (fun _ _ => rfl) ?_ ?_
  · intro conn bad
    rw [if_pos bad]
    exact Speaks.seq (explains_error (by rfl)) fun _ => speaks_pure ⟨true, rfl, fun _ => rfl⟩
  intro conn fine
  rw [if_neg fine]
  refine Speaks.seq (uneventful_log (by decide) (by rfl)) fun _ => ?_
  refine Speaks.seq (uneventful_log (by decide) (by rfl)) fun _ => ?_
  refine Speaks.seq (uneventful_log (by decide) (by rfl)) fun _ => ?_
  have limit : Uneventful config false (whenever (0 < s.maxBytesToCapture)
      (beastieLog .debug "capture limit: %lu bytes" [.u64 s.maxBytesToCapture])) :=
    Speaks.ite (fun _ => uneventful_log (by decide) (by rfl)) fun _ => speaks_pure rfl
  refine Speaks.seq limit fun _ => ?_
  refine Speaks.seq (uneventful_log (by decide) (by rfl)) fun _ => ?_
  refine Speaks.seq (uneventful_log (by decide) (by rfl)) fun _ => ?_
  refine Speaks.seq (uneventful_log (by decide) (by rfl)) fun _ => ?_
  exact speaks_pure ⟨false, rfl, fun no => absurd no.symm Bool.false_ne_true⟩

/-- At the loop test with nothing due, or over. -/
def AtTestExplained : CaptureTurn → Reporting → Prop
  | .again _, phase => ∃ b, phase = settled b
  | .exit rc, phase => Explained rc phase

theorem explains_captureStart : Explains config AtTestExplained captureStart (settled false) := by
  refine Speaks.bind explains_captureSetUp ?_
  rintro ⟨h, ready⟩ _ ⟨b, rfl, told⟩
  cases ready with
  | true => exact speaks_pure ⟨b, rfl⟩
  | false =>
    refine Speaks.seq (uneventful_captureCleanup h) fun _ => ?_
    exact speaks_pure ⟨b, rfl, fun _ => told rfl⟩

theorem explains_capturePass (h : CaptureHandles) :
    Explains config AtTestExplained (capturePass h) (settled b) := by
  have finish (b : Bool) :
      Explains config AtTestExplained (captureFinish h >>= fun rc => pure (.exit rc)) (settled b) :=
    Speaks.bind (explains_captureFinish h) fun _ _ told => speaks_pure told
  have nothing (reading : Bool) : pollFailure .success reading = none :=
    if_neg fun bad => bad.2 (by decide)
  refine Speaks.ask_bind (fun reading : Bool => ⟨pollFailure .success reading, .success, b⟩)
    (fun _ _ => rfl) fun reading => ?_
  rw [nothing]
  cases reading with
  | false => exact finish b
  | true =>
    refine Speaks.bind explains_memifPollEvent ?_
    rintro err _ ⟨b', rfl⟩
    refine Speaks.ask_bind (fun reading : Bool => ⟨pollFailure err reading, .success, b'⟩)
      (fun _ _ => rfl) fun reading => ?_
    cases reading with
    | false => exact finish b'
    | true =>
      by_cases failed : err ≠ .success ∧ err ≠ .pollCancel
      · have due : pollFailure err true = some ("memif_poll_event: %s", [.strerror err]) :=
          if_pos ⟨rfl, not_not.2 failed⟩
        simp only [↓reduceIte, if_pos failed, due]
        have abort : Explains config (fun _ phase' => phase' = settled true) (captureAbort h err)
            ⟨some ("memif_poll_event: %s", [.strerror err]), .success, b'⟩ :=
          Speaks.seq (explains_error (by rfl)) fun _ => uneventful_captureCleanup h
        exact Speaks.seq abort fun _ => speaks_pure ⟨true, rfl, fun _ => rfl⟩
      · have due : pollFailure err true = none := if_neg fun bad => bad.2 failed
        simp only [↓reduceIte, if_neg failed, due]
        exact speaks_pure ⟨b', rfl⟩

end Parts

/-! ## The messages of a run -/

section Runs
variable {config : BeastieCaptureConfig} {files : CString → FileContent} {ok : CaptureGuard}

/-- The phase is what the calls so far say. -/
structure Reckons (config : BeastieCaptureConfig) (phase : Reporting)
    (tr : List CaptureEvent) : Prop where
  due : phase.due = owed config tr.reverse
  poll : phase.poll = lastPoll tr.reverse
  reported : phase.reported = true → ∃ e ∈ tr, e.call.2.errorOf ≠ none

theorem Reckons.after {phase : Reporting} {tr : List CaptureEvent} (h : Reckons config phase tr)
    (e : CaptureEvent) : Reckons config (phase.after config e) (tr ++ [e]) := by
  have latest : (tr ++ [e]).reverse = e :: tr.reverse := List.reverse_append
  have before (reported : phase.reported = true) : ∃ e' ∈ tr ++ [e], e'.call.2.errorOf ≠ none := by
    obtain ⟨e', there, error⟩ := h.reported reported
    exact ⟨e', List.mem_append_left _ there, error⟩
  obtain ⟨⟨s, c⟩, r⟩ := e
  constructor
  · rw [latest]
    cases c with
    | keepRunning => exact congrArg (pollFailure · r) h.poll
    | beastieLog level format args => cases level <;> rfl
    | _ => rfl
  · rw [latest]
    cases c with
    | beastieLog level format args => cases level <;> rfl
    | _ => rfl
  · cases c with
    | beastieLog level format args =>
      cases level with
      | error =>
        intro _
        exact ⟨_, List.mem_append_right _ (List.mem_singleton_self _), Option.some_ne_none _⟩
      | warning => exact before
      | info => exact before
      | debug => exact before
    | _ => exact before

theorem reckons_of_passes {phase : Reporting} {tr : List CaptureEvent}
    (passes : (reportProtocol config).Passes (settled false) tr phase) :
    Reckons config phase tr := by
  have start : Reckons config (settled false) [] :=
    ⟨rfl, rfl, fun reported => absurd reported Bool.false_ne_true⟩
  refine passes.keeps (I := Reckons config) ?_ start
  intro phase e behind tr allowed reckoned
  obtain ⟨-, rfl⟩ := next_eq_some allowed
  exact reckoned.after e

/-- Every message of a run is the one that was owed. -/
theorem message_of_passes {phase : Reporting} {t u : List CaptureEvent} {e : CaptureEvent}
    (passes : (reportProtocol config).Passes (settled false) (t ++ e :: u) phase) :
    e.call.2.errorOf = owed config t.reverse ∧ e.call.2.fitting = true := by
  obtain ⟨phase', earlier, later⟩ := passes.split
  cases later with
  | cons allowed rest =>
    obtain ⟨⟨due, fits⟩, -⟩ := next_eq_some allowed
    exact ⟨due.trans (reckons_of_passes earlier).due, fits⟩

theorem capture_reports_errors {x : CaptureConfiguration} (run : CaptureRun ok config files x) :
    ∃ phase, (reportProtocol config).Passes (settled false) (events x.trace) phase ∧
      x.control.Speaks (reportProtocol config) (TurnEnds config AtTestExplained) phase := by
  refine captureRun_speaks explains_captureStart ?_ run
  rintro h _ ⟨b, rfl⟩
  exact explains_capturePass h

/-- **The errors of a capture.** In every state of every run, each call sends the
error message that the call before it asks for, and no other: a failure is reported
before anything else is called. The flush inside `close_pcap_writer` is no call of
the capture: nobody reads its result. A run that is over owes none, and one that
returned 1 has reported an error. -/
theorem capture_failures_reported {x : CaptureConfiguration} (run : CaptureRun ok config files x) :
    (∀ t e u, events x.trace = t ++ e :: u →
      e.call.2.errorOf = owed config t.reverse ∧ e.call.2.fitting = true) ∧
    ∀ rc s, x.control = .done (.exit (rc, s)) → owed config (events x.trace).reverse = none ∧
      (rc ≠ 0 → ∃ e ∈ events x.trace, e.call.2.errorOf ≠ none) := by
  obtain ⟨phase, passes, speaks⟩ := capture_reports_errors run
  constructor
  · intro t e u split
    rw [split] at passes
    exact message_of_passes passes
  · intro rc s returned
    rw [returned] at speaks
    obtain ⟨b, rfl, told⟩ := speaks
    have reckoned := reckons_of_passes passes
    exact ⟨reckoned.due.symm, fun failed => reckoned.reported (told failed)⟩

/-- Every poll fails. -/
def unpollable : CaptureAnswers := ⟨⟨[], .other 1⟩, [], ⟨true, .opened, 0, 0⟩⟩

/-- The first poll fails. -/
theorem unpollable_returns : ∃ x s,
    CaptureRun Guard.free (defaultCapture 0 (by decide)) (fun _ => .absent) x ∧
    x.control = .done (.exit (1, s)) := by
  obtain ⟨tr, run, _⟩ := reaches_loop_test Guard.free unpollable (fun _ _ _ => trivial)
    (defaultCapture 0 (by decide)) fun _ => .absent
  have turn : Run captureEnv captureBody Guard.free
      ⟨captureBody (⟨true, true⟩, beastieCaptureStateInit (defaultCapture 0 (by decide))),
        ⟨true, true, .initial fun _ => .absent⟩, tr⟩ _ :=
    run_drive (captureAnswer_serves unpollable) (fun _ _ _ => trivial) _ _ _
  exact ⟨_, _, run.trans turn, rfl⟩

/-- The run returns 1, and has said so. -/
theorem failed_poll_reported : ∃ x s,
    CaptureRun Guard.free (defaultCapture 0 (by decide)) (fun _ => .absent) x ∧
    x.control = .done (.exit (1, s)) ∧ ∃ e ∈ events x.trace, e.call.2.errorOf ≠ none := by
  obtain ⟨x, s, run, returned⟩ := unpollable_returns
  have told := (capture_failures_reported run).2 1 s returned
  exact ⟨x, s, run, returned, told.2 (by decide)⟩

end Runs

end BeastieBoy
