import BeastieBoy.CaptureUndisturbed

/-!
# What the exit code tells

`on_interrupt` reports a failure by its return value, which comes back through
`memif_poll_event`, and in three places by `keep_running` as well. The main loop
looks at `keep_running` first.
-/

namespace BeastieBoy

open CLib Interact Local

/-- No failure is hidden from the main loop: no write fails, nor a flush within
a poll; a receive or refill of `on_interrupt` fails only while the flag is 1 and
not with `MEMIF_ERR_POLL_CANCEL`, and no signal comes until the loop has looked.
The refill of `on_connect` succeeds. -/
def Surfaces : CaptureGuard := fun _ w tr a =>
  match a with
  | .interrupt => ¬ Since isMemifFailure isRunningRead tr
  | .did ⟨(_, .writePcapPacket _ _), r⟩ => r = 0
  | .did ⟨(_, .flushPcapWriter), r⟩ => Since isPollStart isPollReturn tr → r = 0
  | .did ⟨(_, .memifRxBurst _ _), r⟩ =>
    r.err ≠ .success → w.keepRunning = true ∧ r.err ≠ .pollCancel
  | .did ⟨(_, .memifRefillQueue _ count), r⟩ =>
    r ≠ .success → count ≤ maxMemifBufs ∧ w.keepRunning = true ∧ r ≠ .pollCancel
  | _ => True

/-- Within a poll, and nothing has failed. -/
structure Clean (tr : CaptureTrace) : Prop where
  fine : ¬ Had isFailure tr
  polling : Since isPollStart isPollReturn tr

/-- A failure is on its way to the main loop, which will see it. -/
structure Unseen (err : MemifErr) (w : CaptureWorld) (tr : CaptureTrace) : Prop where
  failed : err ≠ .success
  kept : err ≠ .pollCancel
  running : w.keepRunning = true
  unread : Since isMemifFailure isRunningRead tr

/-- Nothing is asked of the states in between. -/
def Anywhere (_ : BeastieCaptureState × CaptureCall) (_ : CaptureWorld) (_ : CaptureTrace) : Prop :=
  True

theorem Clean.concat {tr : CaptureTrace} {a : CaptureAct} (h : Clean tr)
    (fine : isFailure a = false) (polling : isPollReturn a = false) : Clean (tr ++ [a]) :=
  ⟨not_had_concat h.fine fine, h.polling.concat (by simp [polling])⟩

/-- A call of a poll that fails in no way the guard lets pass. -/
theorem Clean.serve {w : CaptureWorld} {tr : CaptureTrace} {s : BeastieCaptureState}
    {c : CaptureCall} {r : CaptureReply c} (h : Clean tr) (hc : Housekeeping c ∨ Writing c)
    (met : Surfaces (some (s, c)) w tr (.did ⟨(s, c), r⟩)) : Clean (tr ++ [.did ⟨(s, c), r⟩]) := by
  have absent : ¬ (Housekeeping c ∨ Writing c) → Clean (tr ++ [.did ⟨(s, c), r⟩]) :=
    fun n => absurd hc n
  cases c with
  | writePcapPacket filename buf =>
    obtain rfl : r = 0 := met
    exact h.concat rfl rfl
  | flushPcapWriter =>
    obtain rfl : r = 0 := met h.polling
    exact h.concat rfl rfl
  | memifRefillQueue qid count =>
    have connect : count = 2 ^ 16 - 1 := hc.elim id False.elim
    have ok : r = .success := by
      by_contra bad
      have := (met bad).1
      rw [connect] at this
      exact absurd this (by decide)
    subst ok
    exact h.concat rfl rfl
  | memifRxBurst => exact absent (by simp [Housekeeping, Writing])
  | pollReturn => exact absent (by simp [Housekeeping, Writing])
  | _ => exact h.concat rfl rfl

theorem safe_clean {α : Type} {m : CaptureM α} (uses : Uses (fun c => Housekeeping c ∨ Writing c) m)
    {s : BeastieCaptureState} {w : CaptureWorld} {tr : CaptureTrace} (now : Clean tr) :
    Safe captureEnv Surfaces Anywhere (fun _ _ => Clean) (m s) w tr := by
  apply Safe.through (P := fun _ => Clean) uses ?_ ?_ ?_ now
  · exact fun s c w tr hc h => trivial
  · exact fun s c w tr hc h met => h.concat rfl rfl
  · exact fun s c w tr r w' hc h served met => h.serve hc met

/-- The message about a failure changes nothing: no signal may come. -/
theorem safe_unseen_log {err : MemifErr} (level : AppLogLevel) (format : String)
    (args : List PrintArg) {s : BeastieCaptureState} {w : CaptureWorld} {tr : CaptureTrace}
    (now : Unseen err w tr) :
    Safe captureEnv Surfaces Anywhere (fun _ => Unseen err)
      (beastieLog level format args s) w tr := by
  refine Safe.call (Unseen err) now ?_ (fun _ _ _ => trivial) ?_
  · exact fun w tr h met => absurd h.unread met
  · rintro w tr r w' h rfl met
    exact .done ⟨h.failed, h.kept, h.running, h.unread.concat (by simp [isRunningRead])⟩

theorem safe_onInterruptLoop_clean (bufs : List MemifBuffer) {s : BeastieCaptureState}
    {w : CaptureWorld} {tr : CaptureTrace} (now : Clean tr) :
    Safe captureEnv Surfaces Anywhere (fun x _ tr => x.1 = none ∧ Clean tr)
      (onInterruptLoop bufs s) w tr := by
  have stop : ∀ {s w tr}, Clean tr → Safe captureEnv Surfaces Anywhere
      (fun x _ tr => x.1 = none ∧ Clean tr)
      ((call .stop >>= fun _ => pure none : CaptureM (Option MemifErr)) s) w tr := by
    intro s w tr h
    have uses : Uses (fun c => Housekeeping c ∨ Writing c) (call .stop) :=
      (reads_call (.inr trivial)).uses
    exact Safe.seq (safe_clean uses h) fun _ _ _ _ h => .done ⟨rfl, h⟩
  induction bufs generalizing s w tr with
  | nil => exact .done ⟨rfl, now⟩
  | cons buf bufs ih =>
    unfold onInterruptLoop
    rw [vars_bind]
    by_cases refused : 0 < s.maxBytesToCapture ∧
        s.maxBytesToCapture < (s.bytesCaptured + buf.len) % 2 ^ 64
    · rw [if_pos refused]
      exact stop now
    · rw [if_neg refused]
      refine Safe.ask (c := .writePcapPacket s.pcapFilename buf) (fun _ => Clean) now ?_ ?_ ?_
      · exact fun w tr h met => h.concat rfl rfl
      · exact fun w tr h => trivial
      rintro w tr result w' h served met
      obtain rfl : result = 0 := met
      rw [if_neg (by simp), update_bind, vars_bind]
      have wrote :=
        h.concat (a := .did ⟨(s, .writePcapPacket s.pcapFilename buf), (0 : Int)⟩) rfl rfl
      by_cases reached : 0 < (countPacket buf s).maxBytesToCapture ∧
          (countPacket buf s).maxBytesToCapture ≤ (countPacket buf s).bytesCaptured
      · rw [if_pos reached]
        exact stop wrote
      · rw [if_neg reached]
        exact ih wrote

theorem safe_onInterruptFlush_clean {s : BeastieCaptureState} {w : CaptureWorld} {tr : CaptureTrace}
    (now : Clean tr) :
    Safe captureEnv Surfaces Anywhere (fun x _ tr => x.1 = none ∧ Clean tr)
      (onInterruptFlush s) w tr := by
  unfold onInterruptFlush
  rw [vars_bind]
  by_cases due : pcapFlushIntervalBytes ≤ s.bytesSinceLastFlush
  · rw [if_pos due]
    refine Safe.ask (c := .flushPcapWriter) (fun _ => Clean) now ?_ ?_ ?_
    · exact fun w tr h met => h.concat rfl rfl
    · exact fun w tr h => trivial
    rintro w tr result w' h served met
    obtain rfl : result = 0 := met h.polling
    rw [if_neg (by simp)]
    exact .done ⟨rfl, h.concat rfl rfl⟩
  · rw [if_neg due]
    exact .done ⟨rfl, now⟩

/-- How a callback ends: well, or with a failure the loop will see. -/
def Reported (err : MemifErr) (w : CaptureWorld) (tr : CaptureTrace) : Prop :=
  err = .success ∧ Clean tr ∨ Unseen err w tr

theorem safe_onInterruptRefill_clean (qid rx : Nat) {s : BeastieCaptureState} {w : CaptureWorld}
    {tr : CaptureTrace} (now : Clean tr) :
    Safe captureEnv Surfaces Anywhere (fun x => Reported x.1)
      (onInterruptRefill qid rx s) w tr := by
  unfold onInterruptRefill
  by_cases some : 0 < rx
  · rw [if_pos some]
    refine Safe.ask (c := .memifRefillQueue qid rx) (fun _ => Clean) now ?_ ?_ ?_
    · exact fun w tr h met => h.concat rfl rfl
    · exact fun w tr h => trivial
    rintro w tr err w' h rfl met
    by_cases failed : err ≠ .success
    · rw [if_pos failed]
      obtain ⟨_, running, kept⟩ := met failed
      have unseen : Unseen err w' (tr ++ [.did ⟨(s, .memifRefillQueue qid rx), err⟩]) :=
        ⟨failed, kept, running, since_concat_of_left (by simpa [isMemifFailure] using failed)⟩
      exact Safe.seq (safe_unseen_log _ _ _ unseen) fun _ _ _ _ h => .done (.inr h)
    · rw [if_neg failed]
      obtain rfl : err = .success := by simpa using failed
      exact .done (.inl ⟨rfl, h.concat rfl rfl⟩)
  · rw [if_neg some]
    exact .done (.inl ⟨rfl, now⟩)

theorem safe_onInterrupt_clean (qid : Nat) {s : BeastieCaptureState} {w : CaptureWorld}
    {tr : CaptureTrace} (now : Clean tr) :
    Safe captureEnv Surfaces Anywhere (fun x => Reported x.1) (onInterrupt qid s) w tr := by
  refine Safe.ask (c := .memifRxBurst qid maxMemifBufs) (fun _ => Clean) now ?_ ?_ ?_
  · exact fun w tr h met => h.concat rfl rfl
  · exact fun w tr h => trivial
  rintro w tr ⟨err, bufs⟩ w' h ⟨_, _, rfl⟩ met
  by_cases failed : err ≠ .success
  · rw [if_pos failed]
    obtain ⟨running, kept⟩ := met failed
    have unseen : Unseen err w' (tr ++ [.did ⟨(s, .memifRxBurst qid maxMemifBufs), ⟨err, bufs⟩⟩]) :=
      ⟨failed, kept, running, since_concat_of_left (by simpa [isMemifFailure] using failed)⟩
    exact Safe.seq (safe_unseen_log _ _ _ unseen) fun _ _ _ _ h => .done (.inr h)
  · rw [if_neg failed]
    obtain rfl : err = .success := by simpa using failed
    refine Safe.seq (safe_onInterruptLoop_clean bufs (h.concat rfl rfl)) ?_
    rintro _ s w tr ⟨rfl, h⟩
    have progress : Uses (fun c => Housekeeping c ∨ Writing c)
        (whenever (0 < bufs.length) printCaptureProgress) :=
      (reads_printCaptureProgress fun _ _ => .inl trivial).whenever.uses
    refine Safe.seq (safe_clean progress h) fun _ s w tr h => ?_
    refine Safe.seq (safe_onInterruptFlush_clean h) ?_
    rintro _ s w tr ⟨rfl, h⟩
    exact safe_onInterruptRefill_clean qid _ h

theorem safe_pollCallbacks_clean (callbacks : List MemifCallback) {s : BeastieCaptureState}
    {w : CaptureWorld} {tr : CaptureTrace} (now : Clean tr) :
    Safe captureEnv Surfaces Anywhere
      (fun x w tr => x.1 = none ∧ Clean tr ∨ ∃ err, x.1 = some err ∧ Unseen err w tr)
      (pollCallbacks callbacks s) w tr := by
  induction callbacks generalizing s w tr with
  | nil => exact .done (.inl ⟨rfl, now⟩)
  | cons callback rest ih =>
    cases callback with
    | connect =>
      exact Safe.seq (safe_clean (reads_onConnect.mono fun _ => .inl).uses now) fun _ _ _ _ h =>
        ih h
    | disconnect =>
      exact Safe.seq (safe_clean (reads_onDisconnect.mono fun _ => .inl).uses now) fun _ _ _ _ h =>
        ih h
    | interrupt qid =>
      refine Safe.seq (safe_onInterrupt_clean qid now) ?_
      rintro err s w tr (⟨rfl, h⟩ | h)
      · rw [if_neg (by simp)]
        exact ih h
      · rw [if_pos h.failed]
        exact .done (.inr ⟨err, rfl, h⟩)

theorem safe_memifPollEvent_clean {s : BeastieCaptureState} {w : CaptureWorld} {tr : CaptureTrace}
    (now : ¬ Had isFailure tr) :
    Safe captureEnv Surfaces Anywhere (fun x w tr => ¬ Had isFailure tr ∨ Unseen x.1 w tr)
      (memifPollEvent s) w tr := by
  refine Safe.ask (c := .memifPollEvent) (fun _ tr => ¬ Had isFailure tr) now ?_ ?_ ?_
  · exact fun w tr h met => not_had_concat h rfl
  · exact fun w tr h => trivial
  rintro w tr r w' h served met
  have started : Clean (tr ++ [.did ⟨(s, .memifPollEvent), r⟩]) :=
    ⟨not_had_concat h rfl, since_concat_of_left rfl⟩
  refine Safe.ask (c := .pollWait) (fun _ => Clean) started ?_ ?_ ?_
  · exact fun w tr h met => h.concat rfl rfl
  · exact fun w tr h => trivial
  rintro w tr poll w' h served met
  refine Safe.seq (safe_pollCallbacks_clean _ (h.concat rfl rfl)) ?_
  intro early s w tr h
  refine Safe.ask (c := .pollReturn (early.getD poll.err)) (fun w tr =>
    ¬ Had isFailure tr ∨ Unseen (early.getD poll.err) w tr) ?_ ?_ ?_ ?_
  · rcases h with ⟨_, h⟩ | ⟨err, rfl, h⟩
    · exact .inl h.fine
    · exact .inr h
  · rintro w tr (h | h) met
    · exact .inl (not_had_concat h rfl)
    · exact absurd h.unread met
  · exact fun w tr h => trivial
  rintro w tr r w' (h | h) rfl met
  · exact .done (.inl (not_had_concat h rfl))
  · exact .done (.inr ⟨h.failed, h.kept, h.running, h.unread.concat (by simp [isRunningRead])⟩)

/-! ## The main loop -/

/-- A call that cannot fail. -/
def Infallible (c : CaptureCall) : Prop :=
  ∀ (s : BeastieCaptureState) (r : CaptureReply c), isFailure (.did ⟨(s, c), r⟩) = false

theorem safe_infallible {P : Prop} {α : Type} {m : CaptureM α} (uses : Uses Infallible m)
    {s : BeastieCaptureState} {w : CaptureWorld} {tr : CaptureTrace}
    (now : P → ¬ Had isFailure tr) :
    Safe captureEnv Surfaces Anywhere (fun _ _ tr => P → ¬ Had isFailure tr) (m s) w tr := by
  apply Safe.through (P := fun _ tr => P → ¬ Had isFailure tr) uses ?_ ?_ ?_ now
  · exact fun s c w tr hc h => trivial
  · exact fun s c w tr hc h met hP => not_had_concat (h hP) rfl
  · exact fun s c w tr r w' hc h served met hP => not_had_concat (h hP) (hc s r)

theorem uses_captureCleanup_infallible (handles : CaptureHandles) :
    Uses Infallible (captureCleanup handles) :=
  (reads_captureCleanup (fun _ _ => rfl) (fun _ _ => rfl) (fun _ _ => rfl)
    (fun _ _ => rfl) handles).uses

theorem safe_captureFinish_clean (handles : CaptureHandles) {s : BeastieCaptureState}
    {w : CaptureWorld} {tr : CaptureTrace} (now : ¬ Had isFailure tr) :
    Safe captureEnv Surfaces Anywhere (fun x _ tr => x.1 = 0 → ¬ Had isFailure tr)
      (captureFinish handles s) w tr := by
  have flush : Safe captureEnv Surfaces Anywhere (fun x _ tr => x.1 = 0 → ¬ Had isFailure tr)
      (captureFlush s) w tr := by
    unfold captureFlush
    rw [vars_bind]
    refine Safe.ask (c := .flushPcapWriter) (fun _ tr => ¬ Had isFailure tr) now ?_ ?_ ?_
    · exact fun w tr h met => not_had_concat h rfl
    · exact fun w tr h => trivial
    rintro w tr result w' h served met
    by_cases bad : result ≠ 0
    · rw [if_pos bad]
      have log : Uses Infallible (beastieLog .error "flush_pcap_writer failed for output %s"
          [.str s.pcapFilename]) := (reads_call fun _ _ => rfl).uses
      exact Safe.seq (safe_infallible (P := False) log (by simp)) fun _ _ _ _ _ => .done (by simp)
    · rw [if_neg bad]
      obtain rfl : result = 0 := by simpa using bad
      exact .done fun _ => not_had_concat h rfl
  have summary : Uses Infallible printCaptureSummary :=
    (reads_printCaptureSummary (fun _ _ _ _ _ => rfl) fun _ _ _ _ => rfl).uses
  refine Safe.seq flush fun rc s w tr h => ?_
  refine Safe.seq (safe_infallible summary h) fun _ s w tr h => ?_
  exact Safe.seq (safe_infallible (uses_captureCleanup_infallible handles) h) fun _ s w tr h =>
    .done h

/-- At the loop test; an exit code of 0 promises the same. -/
def Fine (_ : BeastieCaptureState) (_ : CaptureWorld) (tr : CaptureTrace) : Prop :=
  ¬ Had isFailure tr

def Promised (rc : Int) (_ : BeastieCaptureState) (_ : CaptureWorld) (tr : CaptureTrace) : Prop :=
  rc = 0 → ¬ Had isFailure tr

theorem safe_capturePass_clean (handles : CaptureHandles) (s : BeastieCaptureState)
    (w : CaptureWorld) (tr : CaptureTrace) (now : Fine s w tr) :
    Safe captureEnv Surfaces Anywhere (AtTurn Fine Promised) (capturePass handles s) w tr := by
  refine safe_capturePass (R := Fine) (E := Fine)
    (T := fun err _ w tr => ¬ Had isFailure tr ∨ Unseen err w tr)
    (F := fun err _ _ tr => err ≠ .success ∧ err ≠ .pollCancel ∨ ¬ Had isFailure tr)
    ?_ ?_ ?_ ?_ ?_ ?_ handles s w tr now
  · intro s w tr h
    refine Safe.call (Fine s) h ?_ (fun _ _ _ => trivial) ?_
    · exact fun w tr h met => not_had_concat h rfl
    · rintro w tr r w' h served met
      refine .done ?_
      cases r <;> exact not_had_concat h rfl
  · exact fun s w tr h => safe_memifPollEvent_clean h
  · intro err s w tr h
    refine Safe.call (fun w tr => ¬ Had isFailure tr ∨ Unseen err w tr) h ?_
      (fun _ _ _ => trivial) ?_
    · rintro w tr (h | h) met
      · exact .inl (not_had_concat h rfl)
      · exact absurd h.unread met
    · rintro w tr r w' h ⟨rfl, rfl⟩ met
      refine .done ?_
      rcases h with h | h
      · have fine := not_had_concat (a := .did ⟨(s, .keepRunning), w'.keepRunning⟩) h rfl
        simp only
        split
        · exact .inr fine
        · exact fine
      · -- The flag still reads 1, so the loop looks at the poll's result.
        simp only
        rw [h.running, if_pos rfl]
        exact .inl ⟨h.failed, h.kept⟩
  · exact fun err s w tr fine h => h.resolve_left fine
  · intro handles err s w tr _ _
    have abort : Uses Infallible (captureAbort handles err) :=
      Uses.bind (reads_call fun _ _ => rfl).uses fun _ => uses_captureCleanup_infallible handles
    exact safe_infallible (P := (1 : Int) = 0) abort (fun h => absurd h (by decide))
  · exact fun handles s w tr h => safe_captureFinish_clean handles h

/-- **An exit code of 0 means that nothing failed**, in every run whose failures
all surface. -/
theorem exit_zero_fine {config : BeastieCaptureConfig} {files : CString → FileContent}
    {x : CaptureConfiguration} {s : BeastieCaptureState} (run : CaptureRun Surfaces config files x)
    (returned : x.control = .done (.exit (0, s))) : ¬ Had isFailure x.trace := by
  have start : Safe captureEnv Surfaces Anywhere (AtTurn Fine Promised)
      (captureStart (beastieCaptureStateInit config)) ⟨true, true, .initial files⟩ [] := by
    refine safe_captureStart (F := fun _ _ _ => True) ?_ ?_
    · have setUp : Uses Infallible captureSetUp :=
        (reads_captureSetUp (fun _ _ _ _ _ => rfl) (fun _ _ _ _ => rfl) fun _ _ _ _ => rfl).uses
      exact safe_either Prod.snd (R := Fine) (E := fun _ _ _ => True)
        (safe_infallible (P := True) setUp fun _ => not_had_nil) (fun _ _ _ _ h => h trivial)
        fun _ _ _ _ _ => trivial
    · exact fun handles s w tr _ => safe_infallible (P := (1 : Int) = 0)
        (uses_captureCleanup_infallible handles) fun h => absurd h (by decide)
  have meets := capture_meets start safe_capturePass_clean
    (fun _ _ _ h _ => not_had_concat h rfl)
      (fun _ _ _ _ h _ zero => not_had_concat (h zero) rfl) run
  unfold Meets at meets
  rw [returned] at meets
  exact meets rfl

/-- Every poll brings one packet, and the file cannot be opened. -/
def unopenable : CaptureAnswers :=
  ⟨⟨[.interrupt 0], .success⟩, [oneByteBuffer 1 false], ⟨true, .failed .absent, 0, 0⟩⟩

/-- The first packet cannot be written, since the file cannot be opened: the run
returns 0. -/
theorem failed_write_returns_zero : ∃ x s, CaptureRun Guard.free (defaultCapture 0 (by decide))
    (fun _ => .absent) x ∧ x.control = .done (.exit (0, s)) ∧ Had isWriteFailure x.trace := by
  obtain ⟨tr, run, _⟩ := reaches_loop_test Guard.free unopenable (fun _ _ _ => trivial)
    (defaultCapture 0 (by decide)) fun _ => .absent
  have turn : Run captureEnv captureBody Guard.free
      ⟨captureBody (⟨true, true⟩, beastieCaptureStateInit (defaultCapture 0 (by decide))),
        ⟨true, true, .initial fun _ => .absent⟩, tr⟩ _ :=
    run_drive (captureAnswer_serves unopenable) (fun _ _ _ => trivial) _ _ _
  refine ⟨_, _, run.trans turn, rfl, ?_⟩
  rw [drive_append, had_append_iff]
  exact .inr (by decide +kernel)

theorem surfaces_eachPoll (bufs : List MemifBuffer) (w : CaptureWorld)
    (c : BeastieCaptureState × CaptureCall) (tr : CaptureTrace) :
    Surfaces (some c) w tr (.did ⟨c, (captureAnswer (eachPoll bufs) w c).1⟩) := by
  obtain ⟨s, c⟩ := c
  cases c with
  | writePcapPacket filename buf => exact write_opened _ _ _ _
  | flushPcapWriter => exact fun _ => flush_zero _
  | memifRxBurst => exact fun bad => absurd rfl bad
  | memifRefillQueue => exact fun bad => absurd rfl bad
  | _ => trivial

/-- A run with one packet and a signal, in which nothing fails. -/
theorem exit_zero_after_packet : ∃ x s, CaptureRun Surfaces (defaultCapture 0 (by decide))
    (fun _ => .absent) x ∧ x.control = .done (.exit (0, s)) ∧ (written x.trace).length = 1 ∧
    ¬ Had isFailure x.trace := by
  have signal : ∀ s w tr, ¬ Had isFailure tr →
      Surfaces (some (s, .keepRunning)) w tr .interrupt := by
    rintro s w tr fine ⟨t, a, u, rfl, failed, _⟩
    exact fine ⟨a, by simp, by simp [isFailure, failed]⟩
  obtain ⟨s, w, tr, run, _, _, taken⟩ :=
    undisturbed_return (eachPoll [oneByteBuffer 1 false]) (0, 0) 0 rfl rfl (by decide) Surfaces
      (surfaces_eachPoll _) signal (defaultCapture 0 (by decide)) rfl (fun _ => .absent) 1
  exact ⟨_, s, run, rfl, by rw [taken]; rfl, exit_zero_fine run rfl⟩

end BeastieBoy
