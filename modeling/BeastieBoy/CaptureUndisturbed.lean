import BeastieBoy.CaptureTrace

/-!
# Captures that nothing disturbs

Surroundings that answer by a function and never fail. Without a limit the
capture then goes on for ever: every turn of the loop takes one burst and writes
all of it.
-/

namespace BeastieBoy

open CLib Interact Local

/-- How surroundings that never fail answer: what every poll and every burst
brings, and what every write meets. -/
structure CaptureAnswers where
  poll : MemifPoll
  bufs : List MemifBuffer
  met : WriteConditions

def captureAnswer (a : CaptureAnswers) (w : CaptureWorld) :
    (c : BeastieCaptureState × CaptureCall) → CaptureReply c.2 × CaptureWorld
  | (_, .keepRunning) => (w.keepRunning, w)
  | (_, .stop) => ((), { w with keepRunning := false })
  | (_, .detach) => ((), { w with active := false })
  | (_, .memifCreateSocket ..) => (⟨.success, true⟩, w)
  | (_, .memifCreate ..) => (⟨.success, true⟩, w)
  | (_, .memifPollEvent) => ((), w)
  | (_, .pollWait) => (a.poll, w)
  | (_, .pollReturn _) => ((), w)
  | (_, .memifRxBurst _ count) => (⟨.success, if a.bufs.length ≤ count then a.bufs else []⟩, w)
  | (_, .memifRefillQueue ..) => (.success, w)
  | (_, .memifCancelPollEvent) => (.success, w)
  | (_, .memifDelete) => ((), w)
  | (_, .memifDeleteSocket) => ((), w)
  | (_, .writePcapPacket filename buf) =>
    let r := writePcapPacket a.met filename buf.data w.writer
    (r.1, { w with writer := r.2 })
  | (_, .flushPcapWriter) =>
    let r := flushPcapWriter 0 w.writer
    (r.1, { w with writer := r.2 })
  | (_, .closePcapWriter) => ((), { w with writer := closePcapWriter 0 w.writer })
  | (_, .beastieLog ..) => ((), w)
  | (_, .printf ..) => ((), w)

def oneByteBuffer (byte : UInt8) (next : Bool) : MemifBuffer :=
  ⟨[byte], next, Nat.one_lt_two_pow (by decide)⟩

/-- Every poll brings one callback, and it finds `bufs`. -/
def eachPoll (bufs : List MemifBuffer) : CaptureAnswers :=
  ⟨⟨[.interrupt 0], .success⟩, bufs, ⟨true, .opened, 0, 0⟩⟩

theorem captureAnswer_serves (a : CaptureAnswers) (w : CaptureWorld)
    (c : BeastieCaptureState × CaptureCall) :
    captureServe w c (captureAnswer a w c).1 (captureAnswer a w c).2 := by
  obtain ⟨s, c⟩ := c
  cases c with
  | memifRxBurst qid count =>
    refine ⟨fun h => absurd rfl h, ?_, rfl⟩
    show (if _ then _ else _ : List MemifBuffer).length ≤ count
    split
    · assumption
    · exact Nat.zero_le _
  | keepRunning => exact ⟨rfl, rfl⟩
  | writePcapPacket => exact ⟨a.met, rfl, rfl⟩
  | flushPcapWriter => exact ⟨0, rfl, rfl⟩
  | closePcapWriter => exact ⟨0, rfl⟩
  | _ => rfl

/-- Nothing delivered, written or failed. -/
def isSilent (b : CaptureAct) : Bool :=
  !isFailure b && (actDelivered b).isEmpty && (actWritten b).isEmpty

/-- With these answers the start always comes to the loop test. -/
theorem drive_start (a : CaptureAnswers) (s : BeastieCaptureState) (w : CaptureWorld) :
    ∃ tr, drive (captureAnswer a) (withVars captureStart s) w [] =
        (.again (⟨true, true⟩, s), w, tr) ∧ tr.all isSilent = true := by
  obtain ⟨filename, packets, bytes, max, since, id, path⟩ := s
  cases max with
  | zero => exact ⟨_, rfl, rfl⟩
  | succ max => exact ⟨_, rfl, rfl⟩

/-- From the start to the loop test, with nothing delivered, written or failed. -/
theorem reaches_loop_test (ok : CaptureGuard) (a : CaptureAnswers)
    (met : ∀ w c tr, ok (some c) w tr (.did ⟨c, (captureAnswer a w c).1⟩))
    (config : BeastieCaptureConfig) (files : CString → FileContent) :
    ∃ tr, CaptureRun ok config files
        ⟨captureBody (⟨true, true⟩, beastieCaptureStateInit config),
          ⟨true, true, .initial files⟩, tr⟩ ∧
      ¬ Had isFailure tr ∧ delivered tr = [] ∧ written tr = [] := by
  obtain ⟨tr, driven, quiet⟩ :=
    drive_start a (beastieCaptureStateInit config) ⟨true, true, .initial files⟩
  have run : Run captureEnv captureBody ok (beastieRunCapture config files) _ :=
    run_drive (captureAnswer_serves a) met (withVars captureStart (beastieCaptureStateInit config))
      ⟨true, true, .initial files⟩ []
  rw [driven] at run
  simp only [List.all_eq_true, isSilent, Bool.and_eq_true, Bool.not_eq_true',
    List.isEmpty_iff] at quiet
  refine ⟨tr, run.tail .turn, ?_, ?_, ?_⟩
  · rintro ⟨b, hb, failed⟩
    rw [(quiet b hb).1.1] at failed
    cases failed
  · simpa [delivered] using fun b hb => (quiet b hb).1.2
  · simpa [written] using fun b hb => (quiet b hb).2

/-! ## One turn -/

/-- The trace grew: `arrived` was delivered, `taken` written, and nothing failed. -/
structure Adds (tr tr' : CaptureTrace) (arrived taken : List MemifBuffer) : Prop where
  delivered : delivered tr' = delivered tr ++ arrived
  written : written tr' = written tr ++ taken
  fine : Had isFailure tr' → Had isFailure tr

/-- What a part of the loop did: the flag and the limit are as before. -/
structure Moved (s : BeastieCaptureState) (w : CaptureWorld) (tr : CaptureTrace)
    (s' : BeastieCaptureState) (w' : CaptureWorld) (tr' : CaptureTrace)
    (arrived taken : List MemifBuffer) : Prop extends Adds tr tr' arrived taken where
  flag : w'.keepRunning = w.keepRunning
  active : w'.active = w.active
  limit : s'.maxBytesToCapture = s.maxBytesToCapture

section Moved
variable {s s' s'' : BeastieCaptureState} {w w' w'' : CaptureWorld} {tr tr' tr'' : CaptureTrace}
  {arrived arrived' taken taken' : List MemifBuffer}

theorem Adds.act {b : CaptureAct} (fine : isFailure b = false) :
    Adds tr (tr ++ [b]) (actDelivered b) (actWritten b) where
  delivered := delivered_concat tr b
  written := written_concat tr b
  fine := by simp [had_concat_iff, fine]

theorem Adds.trans (h : Adds tr tr' arrived taken) (k : Adds tr' tr'' arrived' taken') :
    Adds tr tr'' (arrived ++ arrived') (taken ++ taken') where
  delivered := by rw [k.delivered, h.delivered, List.append_assoc]
  written := by rw [k.written, h.written, List.append_assoc]
  fine := fun failed => h.fine (k.fine failed)

theorem Moved.refl : Moved s w tr s w tr [] [] :=
  ⟨⟨by simp, by simp, id⟩, rfl, rfl, rfl⟩

theorem Moved.act {b : CaptureAct} (flag : w'.keepRunning = w.keepRunning)
    (active : w'.active = w.active) (limit : s'.maxBytesToCapture = s.maxBytesToCapture)
    (fine : isFailure b = false) :
    Moved s w tr s' w' (tr ++ [b]) (actDelivered b) (actWritten b) :=
  ⟨.act fine, flag, active, limit⟩

theorem Moved.trans (h : Moved s w tr s' w' tr' arrived taken)
    (k : Moved s' w' tr' s'' w'' tr'' arrived' taken') :
    Moved s w tr s'' w'' tr'' (arrived ++ arrived') (taken ++ taken') :=
  ⟨h.toAdds.trans k.toAdds, k.flag.trans h.flag, k.active.trans h.active, k.limit.trans h.limit⟩

end Moved

theorem drive_seq (a : CaptureAnswers) {α β : Type} (m : CaptureM α) (f : α → CaptureM β)
    {s s' : BeastieCaptureState} {w w' : CaptureWorld} {tr tr' : CaptureTrace} {b : α}
    (h : drive (captureAnswer a) (m s) w tr = ((b, s'), w', tr')) :
    drive (captureAnswer a) ((m >>= f) s) w tr = drive (captureAnswer a) (f b s') w' tr' := by
  rw [bind_run, drive_bind, h]

theorem drive_call (a : CaptureAnswers) {β : Type} (c : CaptureCall)
    (f : CaptureReply c → CaptureM β)
    (s : BeastieCaptureState) (w : CaptureWorld) (tr : CaptureTrace) :
    drive (captureAnswer a) ((call c >>= f) s) w tr =
      drive (captureAnswer a) (f (captureAnswer a w (s, c)).1 s) (captureAnswer a w (s, c)).2
        (tr ++ [.did ⟨(s, c), (captureAnswer a w (s, c)).1⟩]) := rfl

theorem write_opened (ts : Nat × Nat) (filename : CString) (data : List UInt8) (w : PcapWriter) :
    (writePcapPacket ⟨true, .opened, ts⟩ filename data w).1 = 0 := by
  unfold writePcapPacket
  cases w.initialized <;> rfl

theorem flush_zero (w : PcapWriter) : (flushPcapWriter 0 w).1 = 0 := by
  unfold flushPcapWriter
  split
  · split <;> rfl
  · rfl

theorem drive_onInterruptLoop (a : CaptureAnswers) (ts : Nat × Nat)
    (opens : a.met = ⟨true, .opened, ts⟩)
    (bufs : List MemifBuffer) (s : BeastieCaptureState) (unlimited : s.maxBytesToCapture = 0)
    (w : CaptureWorld) (tr : CaptureTrace) :
    ∃ s' w' tr', drive (captureAnswer a) (onInterruptLoop bufs s) w tr = ((none, s'), w', tr') ∧
      Moved s w tr s' w' tr' [] bufs := by
  induction bufs generalizing s w tr with
  | nil => exact ⟨s, w, tr, rfl, .refl⟩
  | cons buf bufs ih =>
    have written : (writePcapPacket a.met s.pcapFilename buf.data w.writer).1 = 0 := by
      rw [opens, write_opened]
    have wrote : Moved s w tr (countPacket buf s)
        { w with writer := (writePcapPacket a.met s.pcapFilename buf.data w.writer).2 }
        (tr ++ [.did ⟨(s, .writePcapPacket s.pcapFilename buf), (0 : Int)⟩]) [] [buf] :=
      Moved.act rfl rfl rfl rfl
    obtain ⟨s', w', tr', driven, moved⟩ := ih (countPacket buf s) unlimited
      { w with writer := (writePcapPacket a.met s.pcapFilename buf.data w.writer).2 }
      (tr ++ [.did ⟨(s, .writePcapPacket s.pcapFilename buf), (0 : Int)⟩])
    refine ⟨s', w', tr', ?_, wrote.trans moved⟩
    rw [onInterruptLoop, vars_bind, if_neg (by omega), drive_call]
    simp only [captureAnswer, written]
    rw [if_neg (by decide), update_bind, vars_bind, if_neg (by simp [countPacket, unlimited]),
      driven]

theorem drive_onInterruptFlush (a : CaptureAnswers) (s : BeastieCaptureState) (w : CaptureWorld)
    (tr : CaptureTrace) :
    ∃ s' w' tr', drive (captureAnswer a) (onInterruptFlush s) w tr = ((none, s'), w', tr') ∧
      Moved s w tr s' w' tr' [] [] := by
  unfold onInterruptFlush
  rw [vars_bind]
  by_cases due : pcapFlushIntervalBytes ≤ s.bytesSinceLastFlush
  · rw [if_pos due, drive_call]
    simp only [captureAnswer, flush_zero]
    exact ⟨_, _, _, rfl, Moved.act rfl rfl rfl rfl⟩
  · rw [if_neg due]
    exact ⟨s, w, tr, rfl, .refl⟩

theorem drive_printCaptureProgress (a : CaptureAnswers) (s : BeastieCaptureState) (w : CaptureWorld)
    (tr : CaptureTrace) :
    ∃ tr', drive (captureAnswer a) (printCaptureProgress s) w tr = (((), s), w, tr') ∧
      Moved s w tr s w tr' [] [] := by
  unfold printCaptureProgress
  rw [vars_bind]
  by_cases limited : 0 < s.maxBytesToCapture
  · rw [if_pos limited]
    exact ⟨_, rfl, Moved.act rfl rfl rfl rfl⟩
  · rw [if_neg limited]
    exact ⟨_, rfl, Moved.act rfl rfl rfl rfl⟩

theorem drive_onInterruptEnd (a : CaptureAnswers) (qid rx : Nat) (s : BeastieCaptureState)
    (w : CaptureWorld) (tr : CaptureTrace) :
    ∃ s' w' tr', drive (captureAnswer a) (onInterruptEnd qid rx s) w tr =
      ((.success, s'), w', tr') ∧
      Moved s w tr s' w' tr' [] [] := by
  have progress : ∃ tr', drive (captureAnswer a) (whenever (0 < rx) printCaptureProgress s) w tr =
      (((), s), w, tr') ∧ Moved s w tr s w tr' [] [] := by
    unfold whenever
    by_cases some : 0 < rx
    · rw [if_pos some]
      exact drive_printCaptureProgress a s w tr
    · rw [if_neg some]
      exact ⟨tr, rfl, .refl⟩
  obtain ⟨tr₁, driven₁, moved₁⟩ := progress
  obtain ⟨s₂, w₂, tr₂, driven₂, moved₂⟩ := drive_onInterruptFlush a s w tr₁
  unfold onInterruptEnd
  rw [drive_seq a _ _ driven₁, drive_seq a _ _ driven₂]
  simp only [onInterruptRefill]
  by_cases some : 0 < rx
  · rw [if_pos some]
    exact ⟨s₂, w₂, _, rfl, (moved₁.trans moved₂).trans (Moved.act rfl rfl rfl rfl)⟩
  · rw [if_neg some]
    exact ⟨s₂, w₂, tr₂, rfl, moved₁.trans moved₂⟩

theorem drive_captureCleanup (a : CaptureAnswers) (handles : CaptureHandles)
    (s : BeastieCaptureState) (w : CaptureWorld) (tr : CaptureTrace) :
    ∃ w' tr', drive (captureAnswer a) (captureCleanup handles s) w tr = (((), s), w', tr') ∧
      Adds tr tr' [] [] := by
  obtain ⟨socket, conn⟩ := handles
  have detached : Adds tr (tr ++ [.did ⟨(s, .detach), ()⟩]) [] [] := .act rfl
  have closed : Adds tr
      (tr ++ [.did ⟨(s, .detach), ()⟩] ++ [.did ⟨(s, .closePcapWriter), ()⟩]) [] [] :=
    detached.trans (.act rfl)
  cases conn <;> cases socket
  · exact ⟨_, _, rfl, closed⟩
  · exact ⟨_, _, rfl, closed.trans (.act rfl)⟩
  · exact ⟨_, _, rfl, closed.trans (.act rfl)⟩
  · exact ⟨_, _, rfl, (closed.trans (.act rfl)).trans (.act rfl)⟩

theorem drive_captureFinish (a : CaptureAnswers) (handles : CaptureHandles)
    (s : BeastieCaptureState) (w : CaptureWorld) (tr : CaptureTrace) :
    ∃ w' tr', drive (captureAnswer a) (captureFinish handles s) w tr = ((0, s), w', tr') ∧
      Adds tr tr' [] [] := by
  have flush : ∃ w' tr', drive (captureAnswer a) (captureFlush s) w tr = ((0, s), w', tr') ∧
      Adds tr tr' [] [] := by
    unfold captureFlush
    rw [vars_bind, drive_call]
    simp only [captureAnswer, flush_zero]
    exact ⟨_, _, rfl, .act rfl⟩
  obtain ⟨w₁, tr₁, driven₁, added₁⟩ := flush
  obtain ⟨tr₂, driven₂, moved₂⟩ := drive_printCaptureProgress a s w₁ tr₁
  have summary : ∃ tr',
      drive (captureAnswer a) (printCaptureSummary s) w₁ tr₁ = (((), s), w₁, tr') ∧
      Adds tr₁ tr' [] [] := by
    unfold printCaptureSummary
    rw [drive_seq a _ _ driven₂]
    exact ⟨_, rfl, (moved₂.toAdds.trans (.act rfl)).trans (.act rfl)⟩
  obtain ⟨tr₃, driven₃, added₃⟩ := summary
  obtain ⟨w₄, tr₄, driven₄, added₄⟩ := drive_captureCleanup a handles s w₁ tr₃
  refine ⟨w₄, tr₄, ?_, (added₁.trans added₃).trans added₄⟩
  unfold captureFinish
  rw [drive_seq a _ _ driven₁, drive_seq a _ _ driven₃, drive_seq a _ _ driven₄]
  rfl

/-- With the flag at 0 the loop test leads to a return of 0. -/
theorem drive_captureBody_off (a : CaptureAnswers) (handles : CaptureHandles)
    (s : BeastieCaptureState) (w : CaptureWorld) (off : w.keepRunning = false) (tr : CaptureTrace) :
    ∃ w' tr', drive (captureAnswer a) (captureBody (handles, s)) w tr = (.exit (0, s), w', tr') ∧
      Adds tr tr' [] [] := by
  have tested : Adds tr (tr ++ [.did ⟨(s, .keepRunning), false⟩]) [] [] := .act rfl
  obtain ⟨w', tr', driven, added⟩ := drive_captureFinish a handles s w
    (tr ++ [.did ⟨(s, .keepRunning), false⟩])
  refine ⟨w', tr', ?_, tested.trans added⟩
  have pass : drive (captureAnswer a) (capturePass handles s) w tr = ((.exit 0, s), w', tr') := by
    unfold capturePass keepRunning
    rw [drive_call]
    simp only [captureAnswer, off]
    rw [if_neg (by simp), drive_seq a _ _ driven]
    rfl
  unfold captureBody withVars
  rw [drive_bind, pass]
  rfl

section Turns
variable (a : CaptureAnswers) (ts : Nat × Nat) (qid : Nat) (opens : a.met = ⟨true, .opened, ts⟩)
  (polls : a.poll = ⟨[.interrupt qid], .success⟩) (fits : a.bufs.length ≤ maxMemifBufs)
include opens fits

theorem drive_onInterrupt (s : BeastieCaptureState) (unlimited : s.maxBytesToCapture = 0)
    (w : CaptureWorld) (tr : CaptureTrace) :
    ∃ s' w' tr', drive (captureAnswer a) (onInterrupt qid s) w tr = ((.success, s'), w', tr') ∧
      Moved s w tr s' w' tr' a.bufs a.bufs := by
  have received : captureAnswer a w (s, .memifRxBurst qid maxMemifBufs) =
      (⟨.success, a.bufs⟩, w) := by
    simp only [captureAnswer, if_pos fits]
  have taken : Moved s w tr s w
      (tr ++ [.did ⟨(s, .memifRxBurst qid maxMemifBufs), ⟨.success, a.bufs⟩⟩])
      a.bufs [] := Moved.act rfl rfl rfl rfl
  obtain ⟨s₁, w₁, tr₁, driven₁, moved₁⟩ := drive_onInterruptLoop a ts opens a.bufs s unlimited w
    (tr ++ [.did ⟨(s, .memifRxBurst qid maxMemifBufs), ⟨.success, a.bufs⟩⟩])
  obtain ⟨s₂, w₂, tr₂, driven₂, moved₂⟩ := drive_onInterruptEnd a qid a.bufs.length s₁ w₁ tr₁
  refine ⟨s₂, w₂, tr₂, ?_, by simpa using (taken.trans moved₁).trans moved₂⟩
  unfold onInterrupt
  rw [drive_call, received]
  simp only
  rw [if_neg (by simp), drive_seq a _ _ driven₁]
  exact driven₂

include polls

theorem drive_memifPollEvent (s : BeastieCaptureState) (unlimited : s.maxBytesToCapture = 0)
    (w : CaptureWorld) (tr : CaptureTrace) :
    ∃ s' w' tr', drive (captureAnswer a) (memifPollEvent s) w tr = ((.success, s'), w', tr') ∧
      Moved s w tr s' w' tr' a.bufs a.bufs := by
  have started : Moved s w tr s w (tr ++ [.did ⟨(s, .memifPollEvent), ()⟩]) [] [] :=
    Moved.act rfl rfl rfl rfl
  have waited : Moved s w (tr ++ [.did ⟨(s, .memifPollEvent), ()⟩]) s w
      (tr ++ [.did ⟨(s, .memifPollEvent), ()⟩] ++ [.did ⟨(s, .pollWait), a.poll⟩]) [] [] :=
    Moved.act rfl rfl rfl rfl
  obtain ⟨s', w', tr', driven, moved⟩ := drive_onInterrupt a ts qid opens fits s unlimited w
    (tr ++ [.did ⟨(s, .memifPollEvent), ()⟩] ++ [.did ⟨(s, .pollWait), a.poll⟩])
  have called : drive (captureAnswer a) (pollCallbacks a.poll.callbacks s) w
      (tr ++ [.did ⟨(s, .memifPollEvent), ()⟩] ++ [.did ⟨(s, .pollWait), a.poll⟩]) =
      ((none, s'), w', tr') := by
    rw [polls] at driven ⊢
    rw [pollCallbacks, drive_seq a _ _ driven, if_neg (by simp)]
    rfl
  have left : Moved s' w' tr' s' w' (tr' ++ [.did ⟨(s', .pollReturn .success), ()⟩]) [] [] :=
    Moved.act rfl rfl rfl rfl
  refine ⟨s', w', tr' ++ [.did ⟨(s', .pollReturn .success), ()⟩], ?_,
    by simpa using ((started.trans waited).trans moved).trans left⟩
  unfold memifPollEvent
  rw [drive_call, drive_call]
  simp only [captureAnswer]
  rw [drive_seq a _ _ called, polls]
  rfl

/-- One turn: a poll with one callback takes the burst and writes all of it. -/
theorem drive_captureBody (handles : CaptureHandles) (s : BeastieCaptureState)
    (unlimited : s.maxBytesToCapture = 0) (w : CaptureWorld) (running : w.keepRunning = true)
    (tr : CaptureTrace) :
    ∃ s' w' tr', drive (captureAnswer a) (captureBody (handles, s)) w tr =
        (.again (handles, s'), w', tr') ∧ Moved s w tr s' w' tr' a.bufs a.bufs := by
  have tested : Moved s w tr s w (tr ++ [.did ⟨(s, .keepRunning), true⟩]) [] [] :=
    Moved.act rfl rfl rfl rfl
  obtain ⟨s', w', tr', driven, moved⟩ :=
    drive_memifPollEvent a ts qid opens polls fits s unlimited w
    (tr ++ [.did ⟨(s, .keepRunning), true⟩])
  have retested : Moved s' w' tr' s' w' (tr' ++ [.did ⟨(s', .keepRunning), true⟩]) [] [] :=
    Moved.act rfl rfl rfl rfl
  have pass : drive (captureAnswer a) (capturePass handles s) w tr =
      ((.again handles, s'), w', tr' ++ [.did ⟨(s', .keepRunning), true⟩]) := by
    unfold capturePass keepRunning
    rw [drive_call]
    simp only [captureAnswer, running]
    rw [if_pos trivial, drive_seq a _ _ driven, drive_call]
    simp only [captureAnswer, moved.flag, running]
    rfl
  refine ⟨s', w', tr' ++ [.did ⟨(s', .keepRunning), true⟩], ?_,
    by simpa using (tested.trans moved).trans retested⟩
  unfold captureBody withVars
  rw [drive_bind, pass]
  rfl

/-- **A capture that nothing disturbs goes on.** After `n` turns it has taken and
written `n` bursts, and its flag is still 1. -/
theorem undisturbed_turns (ok : CaptureGuard)
    (met : ∀ w c tr, ok (some c) w tr (.did ⟨c, (captureAnswer a w c).1⟩))
    (config : BeastieCaptureConfig) (unlimited : config.maxCaptureBytes = 0)
    (files : CString → FileContent) (n : Nat) :
    ∃ s w tr, CaptureRun ok config files ⟨captureBody (⟨true, true⟩, s), w, tr⟩ ∧
      s.maxBytesToCapture = 0 ∧ w.keepRunning = true ∧ w.active = true ∧ ¬ Had isFailure tr ∧
      delivered tr = (List.replicate n a.bufs).flatten ∧
      written tr = (List.replicate n a.bufs).flatten := by
  induction n with
  | zero =>
    obtain ⟨tr, run, quiet⟩ := reaches_loop_test ok a met config files
    exact ⟨_, _, tr, run, unlimited, rfl, rfl, quiet⟩
  | succ n ih =>
    obtain ⟨s, w, tr, run, limit, running, active, fine, arrived, taken⟩ := ih
    obtain ⟨s', w', tr', driven, moved⟩ :=
      drive_captureBody a ts qid opens polls fits ⟨true, true⟩ s
      limit w running tr
    have turn : Run captureEnv captureBody ok ⟨captureBody (⟨true, true⟩, s), w, tr⟩ _ :=
      run_drive (captureAnswer_serves a) met (captureBody (⟨true, true⟩, s)) w tr
    rw [driven] at turn
    refine ⟨s', w', tr', (run.trans turn).tail .turn, moved.limit.trans limit,
      moved.flag.trans running, moved.active.trans active, fun failed => fine (moved.fine failed),
      ?_, ?_⟩
    · rw [moved.delivered, arrived, List.replicate_succ', List.flatten_concat]
    · rw [moved.written, taken, List.replicate_succ', List.flatten_concat]

/-- A signal at the loop test then ends it with a return of 0. -/
theorem undisturbed_return (ok : CaptureGuard)
    (met : ∀ w c tr, ok (some c) w tr (.did ⟨c, (captureAnswer a w c).1⟩))
    (signal : ∀ s w tr, ¬ Had isFailure tr → ok (some (s, .keepRunning)) w tr .interrupt)
    (config : BeastieCaptureConfig) (unlimited : config.maxCaptureBytes = 0)
    (files : CString → FileContent) (n : Nat) :
    ∃ s w tr, CaptureRun ok config files ⟨.done (.exit (0, s)), w, tr⟩ ∧ ¬ Had isFailure tr ∧
      delivered tr = (List.replicate n a.bufs).flatten ∧
      written tr = (List.replicate n a.bufs).flatten := by
  obtain ⟨s, w, tr, run, limit, running, active, fine, arrived, taken⟩ :=
    undisturbed_turns a ts qid opens polls fits ok met config unlimited files n
  have signalled := run.tail (.interrupt (signal s w tr fine))
  obtain ⟨w', tr', driven, added⟩ := drive_captureBody_off a ⟨true, true⟩ s (handleSignal w)
    (handleSignal_off active) (tr ++ [.interrupt])
  have rest : Run captureEnv captureBody ok
      ⟨captureBody (⟨true, true⟩, s), handleSignal w, tr ++ [.interrupt]⟩ _ :=
    run_drive (captureAnswer_serves a) met _ _ _
  rw [driven] at rest
  have interrupted : Adds tr (tr ++ [.interrupt]) [] [] := .act rfl
  have all := interrupted.trans added
  refine ⟨s, w', tr', signalled.trans rest, fun failed => fine (all.fine failed), ?_, ?_⟩
  · rw [all.delivered, arrived, List.append_nil, List.append_nil]
  · rw [all.written, taken, List.append_nil, List.append_nil]

end Turns

/-! ## A limit -/

def threeBuffers : List MemifBuffer :=
  [⟨[1, 2, 3], false, by decide⟩, ⟨[4, 5], false, by decide⟩, ⟨[6, 7, 8, 9], false, by decide⟩]

/-- Of three packets at once the third would pass the limit: a capture writes two,
and returns. -/
theorem limited_return (ok : CaptureGuard)
    (met : ∀ w c tr, ok (some c) w tr (.did ⟨c, (captureAnswer (eachPoll threeBuffers) w c).1⟩)) :
    ∃ x s, CaptureRun ok (defaultCapture 6 (by decide)) (fun _ => .absent) x ∧
      x.control = .done (.exit (0, s)) ∧
      delivered x.trace = threeBuffers ∧ written x.trace = threeBuffers.take 2 := by
  obtain ⟨tr, run, _, delivered_nil, written_nil⟩ :=
    reaches_loop_test ok (eachPoll threeBuffers) met (defaultCapture 6 (by decide)) fun _ => .absent
  have turn : Run captureEnv captureBody ok
      ⟨captureBody (⟨true, true⟩, beastieCaptureStateInit (defaultCapture 6 (by decide))),
        ⟨true, true, .initial fun _ => .absent⟩, tr⟩ _ :=
    run_drive (captureAnswer_serves (eachPoll threeBuffers)) met _ _ _
  refine ⟨_, _, run.trans turn, rfl, ?_, ?_⟩
  · rw [drive_append, delivered_append, delivered_nil]
    rfl
  · rw [drive_append, written_append, written_nil]
    rfl

end BeastieBoy
