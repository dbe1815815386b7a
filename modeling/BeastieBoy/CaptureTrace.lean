import BeastieBoy.Capture
import BeastieBoy.Interact.Trace

/-!
# The trace of a capture

What a trace tells about a run: the buffers delivered and written, the failures,
the signals. Then which calls each part of the program makes, and what every
step of a run keeps about `keep_running`.
-/

namespace BeastieBoy

open Interact Local

abbrev CaptureAct := Act fun c : BeastieCaptureState × CaptureCall => CaptureReply c.2

def isSignal : CaptureAct → Bool
  | .interrupt => true
  | .did _ => false

def isStop : CaptureAct → Bool
  | .did ⟨(_, .stop), _⟩ => true
  | _ => false

/-- What sets `keep_running` to 0. -/
def isOff (a : CaptureAct) : Bool := isSignal a || isStop a

def isRunningRead : CaptureAct → Bool
  | .did ⟨(_, .keepRunning), _⟩ => true
  | _ => false

def isPollStart : CaptureAct → Bool
  | .did ⟨(_, .memifPollEvent), _⟩ => true
  | _ => false

def isPollReturn : CaptureAct → Bool
  | .did ⟨(_, .pollReturn _), _⟩ => true
  | _ => false

def isRxBurst : CaptureAct → Bool
  | .did ⟨(_, .memifRxBurst _ _), _⟩ => true
  | _ => false

def isWriteFailure : CaptureAct → Bool
  | .did ⟨(_, .writePcapPacket _ _), r⟩ => decide (r ≠ 0)
  | _ => false

def isFlushFailure : CaptureAct → Bool
  | .did ⟨(_, .flushPcapWriter), r⟩ => decide (r ≠ 0)
  | _ => false

def isWriterFailure (a : CaptureAct) : Bool := isWriteFailure a || isFlushFailure a

def isMemifFailure : CaptureAct → Bool
  | .did ⟨(_, .memifRxBurst _ _), r⟩ => decide (r.err ≠ .success)
  | .did ⟨(_, .memifRefillQueue _ _), r⟩ => decide (r ≠ .success)
  | _ => false

/-- A failed write, flush, receive or refill. -/
def isFailure (a : CaptureAct) : Bool := isWriterFailure a || isMemifFailure a

def isOnInterrupt : MemifCallback → Bool
  | .interrupt _ => true
  | _ => false

def actDelivered : CaptureAct → List MemifBuffer
  | .did ⟨(_, .memifRxBurst _ _), r⟩ => r.bufs
  | _ => []

def actWritten : CaptureAct → List MemifBuffer
  | .did ⟨(_, .writePcapPacket _ buf), r⟩ => if r = 0 then [buf] else []
  | _ => []

def delivered (tr : CaptureTrace) : List MemifBuffer := tr.flatMap actDelivered

def written (tr : CaptureTrace) : List MemifBuffer := tr.flatMap actWritten

def totalLen (bufs : List MemifBuffer) : Nat := (bufs.map MemifBuffer.len).sum

theorem delivered_append (t u : CaptureTrace) :
    delivered (t ++ u) = delivered t ++ delivered u := by simp [delivered]

theorem written_append (t u : CaptureTrace) : written (t ++ u) = written t ++ written u := by
  simp [written]

@[simp] theorem delivered_concat (tr : CaptureTrace) (a : CaptureAct) :
    delivered (tr ++ [a]) = delivered tr ++ actDelivered a := by simp [delivered]

@[simp] theorem written_concat (tr : CaptureTrace) (a : CaptureAct) :
    written (tr ++ [a]) = written tr ++ actWritten a := by simp [written]

theorem totalLen_append (b c : List MemifBuffer) : totalLen (b ++ c) = totalLen b + totalLen c := by
  simp [totalLen]

theorem totalLen_cons (b : MemifBuffer) (c : List MemifBuffer) :
    totalLen (b :: c) = b.len + totalLen c := by simp [totalLen]

theorem totalLen_le_of_sublist {b c : List MemifBuffer} (h : b.Sublist c) :
    totalLen b ≤ totalLen c := by
  induction h with
  | slnil => exact Nat.le_refl _
  | cons b _ ih => rw [totalLen_cons]; omega
  | cons_cons b _ ih => simp only [totalLen_cons]; omega

/-! ## Which calls are made where -/

/-- Calls that leave the world as it is and carry no data; of the refills only
the one of `on_connect`. -/
def Housekeeping : CaptureCall → Prop
  | .beastieLog .. => True
  | .printf .. => True
  | .memifCreateSocket .. => True
  | .memifCreate .. => True
  | .memifCancelPollEvent => True
  | .memifRefillQueue _ count => count = 2 ^ 16 - 1
  | _ => False

/-- The calls of `on_interrupt` between its `memif_rx_burst` and its refill. -/
def Writing : CaptureCall → Prop
  | .beastieLog .. => True
  | .printf .. => True
  | .stop => True
  | .writePcapPacket .. => True
  | .flushPcapWriter => True
  | _ => False

/-- The calls of `on_interrupt` behind its `memif_rx_burst`. -/
def AfterBurst : CaptureCall → Prop
  | .memifRefillQueue .. => True
  | c => Writing c

/-- The calls of the callbacks. -/
def InCallback : CaptureCall → Prop
  | .memifRxBurst .. => True
  | c => Housekeeping c ∨ AfterBurst c

/-- The calls behind the loop. -/
def Closing : CaptureCall → Prop
  | .flushPcapWriter => True
  | .detach => True
  | .closePcapWriter => True
  | .memifDelete => True
  | .memifDeleteSocket => True
  | c => Housekeeping c

theorem housekeeping_inCallback {c : CaptureCall} (h : Housekeeping c) : InCallback c := by
  cases c <;> first | trivial | exact .inl h

theorem writing_afterBurst {c : CaptureCall} (h : Writing c) : AfterBurst c := by
  cases c <;> trivial

theorem afterBurst_inCallback {c : CaptureCall} (h : AfterBurst c) : InCallback c := by
  cases c <;> first | trivial | exact .inr h

theorem reads_call {K : CaptureCall → Prop} {c : CaptureCall} (h : K c) : Reads K (call c) :=
  reads_ask h

section Reporting
variable {K : CaptureCall → Prop} (log : ∀ level format args, K (.beastieLog level format args))
  (print : ∀ format args, K (.printf format args))

include log in
theorem reads_beastieLog (level : AppLogLevel) (format : String) (args : List PrintArg) :
    Reads K (beastieLog level format args) := reads_call (log level format args)

include print in
theorem reads_printCaptureProgress : Reads K printCaptureProgress :=
  reads_vars.bind fun _ => (reads_call (print _ _)).ite (reads_call (print _ _))

include log print in
theorem reads_printCaptureSummary : Reads K printCaptureSummary :=
  (reads_printCaptureProgress print).bind fun _ => (reads_call (print _ _)).bind fun _ =>
    reads_vars.bind fun _ => reads_beastieLog log _ _ _

include log in
theorem reads_onInterruptRefill {qid rx : Nat} (refill : K (.memifRefillQueue qid rx)) :
    Reads K (onInterruptRefill qid rx) := by
  refine Reads.ite ?_ (reads_pure _)
  refine Reads.bind (reads_call refill) fun err => ?_
  exact Reads.ite ((reads_beastieLog log _ _ _).bind fun _ => reads_pure _) (reads_pure _)

include log in
theorem reads_captureSetUp (socket : ∀ path name, K (.memifCreateSocket path name))
    (conn : ∀ id name, K (.memifCreate id name)) : Reads K captureSetUp := by
  have log := reads_beastieLog log
  refine reads_vars.bind fun state => (reads_call (socket _ _)).bind fun made => ?_
  refine Reads.ite ((log _ _ _).bind fun _ => reads_pure _) ?_
  refine (reads_call (conn _ _)).bind fun joined => ?_
  refine Reads.ite ((log _ _ _).bind fun _ => reads_pure _) ?_
  refine (log _ _ _).bind fun _ => (log _ _ _).bind fun _ => (log _ _ _).bind fun _ => ?_
  refine (log _ _ _).whenever.bind fun _ => ?_
  exact (log _ _ _).bind fun _ => (log _ _ _).bind fun _ => (log _ _ _).bind fun _ => reads_pure _

theorem reads_captureCleanup (detach : K .detach) (close : K .closePcapWriter)
    (delete : K .memifDelete) (deleteSocket : K .memifDeleteSocket) (handles : CaptureHandles) :
    Reads K (captureCleanup handles) :=
  (reads_call detach).bind fun _ => (reads_call close).bind fun _ =>
    (reads_call delete).whenever.bind fun _ => (reads_call deleteSocket).whenever

end Reporting

theorem reads_onConnect : Reads Housekeeping onConnect :=
  reads_vars.bind fun _ => (reads_call trivial).bind fun _ =>
    Reads.bind (reads_call (c := .memifRefillQueue 0 (2 ^ 16 - 1)) rfl) fun _ =>
      Reads.ite ((reads_call trivial).bind fun _ => reads_pure _) (reads_pure _)

theorem reads_onDisconnect : Reads Housekeeping onDisconnect :=
  (reads_call trivial).bind fun _ => reads_call trivial

theorem reads_captureSetUp_housekeeping : Reads Housekeeping captureSetUp :=
  reads_captureSetUp (fun _ _ _ => trivial) (fun _ _ => trivial) fun _ _ => trivial

theorem uses_onInterruptLoop (bufs : List MemifBuffer) :
    Uses Writing (onInterruptLoop bufs) := by
  have stop : Uses Writing (call .stop) := (reads_call trivial).uses
  induction bufs with
  | nil => exact (reads_pure _).uses
  | cons buf bufs ih =>
    refine reads_vars.uses.bind fun state => ?_
    refine Uses.ite (stop.bind fun _ => (reads_pure _).uses) ?_
    refine Uses.bind (reads_call (c := .writePcapPacket _ _) trivial).uses fun result => ?_
    refine Uses.ite ?_ ?_
    · exact Uses.bind (reads_call trivial).uses fun _ => stop.bind fun _ => (reads_pure _).uses
    · refine (uses_update _).bind fun _ => reads_vars.uses.bind fun _ => ?_
      exact Uses.ite (stop.bind fun _ => (reads_pure _).uses) ih

theorem uses_onInterruptFlush : Uses Writing onInterruptFlush := by
  refine reads_vars.uses.bind fun state => Uses.ite ?_ (reads_pure _).uses
  refine Uses.bind (reads_call (c := .flushPcapWriter) trivial).uses fun result => ?_
  refine Uses.ite ?_ ((uses_update _).bind fun _ => (reads_pure _).uses)
  exact Uses.bind (reads_call trivial).uses fun _ =>
    Uses.bind (reads_call (c := .stop) trivial).uses fun _ => (reads_pure _).uses

theorem uses_onInterruptEnd (qid rx : Nat) : Uses AfterBurst (onInterruptEnd qid rx) := by
  refine (reads_printCaptureProgress fun _ _ => trivial).whenever.uses.bind fun _ => ?_
  refine (uses_onInterruptFlush.mono fun _ => writing_afterBurst).bind fun early => ?_
  cases early with
  | some err => exact (reads_pure _).uses
  | none => exact (reads_onInterruptRefill (fun _ _ _ => trivial) trivial).uses

theorem reads_captureCleanup_closing (handles : CaptureHandles) :
    Reads Closing (captureCleanup handles) :=
  reads_captureCleanup trivial trivial trivial trivial handles

theorem reads_captureAbort (handles : CaptureHandles) (err : MemifErr) :
    Reads Closing (captureAbort handles err) :=
  (reads_call trivial).bind fun _ => reads_captureCleanup_closing handles

theorem reads_captureFlush : Reads Closing captureFlush := by
  refine reads_vars.bind fun state => ?_
  refine Reads.bind (reads_call (c := .flushPcapWriter) trivial) fun result => ?_
  exact Reads.ite ((reads_call trivial).bind fun _ => reads_pure _) (reads_pure _)

theorem reads_captureFinish (handles : CaptureHandles) : Reads Closing (captureFinish handles) :=
  reads_captureFlush.bind fun _ =>
    (reads_printCaptureSummary (fun _ _ _ => trivial) fun _ _ => trivial).bind fun _ =>
      (reads_captureCleanup_closing handles).bind fun _ => reads_pure _

/-- `on_interrupt` takes one burst, and none behind it. -/
theorem onInterrupt_burst (qid : Nat) : ∃ rest : MemifBurst → CaptureM MemifErr,
    onInterrupt qid = (call (.memifRxBurst qid maxMemifBufs) >>= rest) ∧
      ∀ burst, Uses AfterBurst (rest burst) := by
  refine ⟨_, rfl, fun burst => Uses.ite ?_ ?_⟩
  · exact Uses.bind (reads_call trivial).uses fun _ => (reads_pure _).uses
  · refine ((uses_onInterruptLoop _).mono fun _ => writing_afterBurst).bind fun early => ?_
    cases early with
    | some err => exact (reads_pure _).uses
    | none => exact uses_onInterruptEnd qid _

theorem uses_onInterrupt (qid : Nat) : Uses InCallback (onInterrupt qid) := by
  obtain ⟨rest, eq, after⟩ := onInterrupt_burst qid
  have burst : Uses InCallback (call (.memifRxBurst qid maxMemifBufs)) := (reads_call trivial).uses
  rw [eq]
  exact burst.bind fun burst => (after burst).mono fun _ => afterBurst_inCallback

theorem uses_pollCallbacks (callbacks : List MemifCallback) :
    Uses InCallback (pollCallbacks callbacks) := by
  induction callbacks with
  | nil => exact (reads_pure _).uses
  | cons callback rest ih =>
    cases callback with
    | connect => exact (reads_onConnect.mono fun _ => housekeeping_inCallback).uses.bind fun _ => ih
    | disconnect =>
      exact (reads_onDisconnect.mono fun _ => housekeeping_inCallback).uses.bind fun _ => ih
    | interrupt qid =>
      exact (uses_onInterrupt qid).bind fun _ => Uses.ite (reads_pure _).uses ih

/-! ## The flag -/

theorem handleSignal_active (w : CaptureWorld) : (handleSignal w).active = w.active := by
  unfold handleSignal; split <;> rfl

theorem handleSignal_writer (w : CaptureWorld) : (handleSignal w).writer = w.writer := by
  unfold handleSignal; split <;> rfl

theorem handleSignal_off {w : CaptureWorld} (h : w.active = true) :
    (handleSignal w).keepRunning = false := by
  simp [handleSignal, h]

theorem handleSignal_stays_off {w : CaptureWorld} (h : w.keepRunning = false) :
    (handleSignal w).keepRunning = false := by
  unfold handleSignal
  split
  · rfl
  · exact h

section Serve
variable {w w' : CaptureWorld} {s : BeastieCaptureState} {c : CaptureCall} {r : CaptureReply c}

/-- One call and the flag: `stop` clears it, nothing else touches it. -/
theorem serve_keepRunning (served : captureServe w (s, c) r w') :
    w'.keepRunning = (w.keepRunning && !isStop (.did ⟨(s, c), r⟩)) := by
  cases c <;> simp only [captureServe] at served <;> simp [isStop] <;> grind

theorem serve_active (served : captureServe w (s, c) r w') (h : c ≠ .detach) :
    w'.active = w.active := by
  cases c <;> simp only [captureServe] at served <;> grind

end Serve

/-- While the capture is registered the flag is 0 exactly if a `stop` or a
signal came. -/
structure Heard (w : CaptureWorld) (tr : CaptureTrace) : Prop where
  off : w.active = true → Had isOff tr → w.keepRunning = false
  why : w.keepRunning = false → Had isOff tr

theorem heard_start (files : CLib.CString → FileContent) :
    Heard ⟨true, true, .initial files⟩ [] where
  off _ had := absurd had not_had_nil
  why off := by cases off

theorem heard_signal (w : CaptureWorld) (tr : CaptureTrace) :
    Heard (handleSignal w) (tr ++ [.interrupt]) := by
  refine ⟨fun active _ => ?_, fun _ => had_concat_iff.2 (.inr rfl)⟩
  rw [handleSignal_active] at active
  exact handleSignal_off active

theorem Heard.serve {w w' : CaptureWorld} {tr : CaptureTrace} {s : BeastieCaptureState}
    {c : CaptureCall} {r : CaptureReply c} (h : Heard w tr)
    (served : captureServe w (s, c) r w') : Heard w' (tr ++ [.did ⟨(s, c), r⟩]) := by
  have flag := serve_keepRunning served
  have off : isOff (.did ⟨(s, c), r⟩) = isStop (.did ⟨(s, c), r⟩) := by simp [isOff, isSignal]
  constructor
  · intro active had
    rcases had_concat_iff.1 had with had | last
    · have before : w.active = true := by
        by_cases hc : c = .detach
        · subst hc
          simp only [captureServe] at served
          simp [served] at active
        · rw [← serve_active served hc]
          exact active
      rw [flag, h.off before had]
      rfl
    · rw [flag, ← off, last]
      simp
  · intro cleared
    rw [had_concat_iff]
    rw [flag, Bool.and_eq_false_iff] at cleared
    rcases cleared with cleared | cleared
    · exact .inl (h.why cleared)
    · exact .inr (by rw [off]; simpa using cleared)

/-- Where the flag is still 1 nothing has cleared it. -/
theorem Heard.not_had_off {w : CaptureWorld} {tr : CaptureTrace} (h : Heard w tr)
    (active : w.active = true) (running : w.keepRunning = true) : ¬ Had isOff tr := by
  intro had
  rw [h.off active had] at running
  cases running

theorem not_had_of_not_off {p : CaptureAct → Bool} {tr : CaptureTrace} (h : ¬ Had isOff tr)
    (off : ∀ a, p a = true → isOff a = true) : ¬ Had p tr := by
  rintro ⟨a, ha, hp⟩
  exact h ⟨a, ha, off a hp⟩

/-- **A flag that is 0 stays 0**, in every run. -/
theorem keepRunning_stays_off {ok : CaptureGuard} {x y : CaptureConfiguration}
    (run : Run captureEnv captureBody ok x y) (h : x.world.keepRunning = false) :
    y.world.keepRunning = false := by
  refine run.preserves (P := fun x => x.world.keepRunning = false) ?_ h
  intro a b step ha
  cases step with
  | reply served =>
    have flag := serve_keepRunning served
    rw [flag, ha]
    rfl
  | interrupt => exact handleSignal_stays_off ha
  | turn => exact ha

/-! ## Outlines of a whole capture -/

/-- The invariant at the loop test, and the postcondition of a return. -/
def AtTurn (J : BeastieCaptureState → CaptureWorld → CaptureTrace → Prop)
    (Q : Int → BeastieCaptureState → CaptureWorld → CaptureTrace → Prop) :
    CaptureTurn × BeastieCaptureState → CaptureWorld → CaptureTrace → Prop
  | (.again _, s) => J s
  | (.exit rc, s) => Q rc s

/-- The struct's variables as a state of the run shows them. -/
def captureVars (x : CaptureConfiguration) : BeastieCaptureState :=
  match x.control with
  | .call c _ => c.1
  | .done (.again y) => y.2
  | .done (.exit y) => y.2

section Outline
variable {ok : CaptureGuard}
  {I : BeastieCaptureState × CaptureCall → CaptureWorld → CaptureTrace → Prop}
  {J : BeastieCaptureState → CaptureWorld → CaptureTrace → Prop}
  {Q : Int → BeastieCaptureState → CaptureWorld → CaptureTrace → Prop}

theorem safe_withVars {m : CaptureM CaptureTurn} {s : BeastieCaptureState} {w : CaptureWorld}
    {tr : CaptureTrace} (h : Safe captureEnv ok I (AtTurn J Q) (m s) w tr) :
    Safe captureEnv ok I (Between (fun x => J x.2) fun x => Q x.1 x.2) (withVars m s) w tr := by
  apply h.bind
  intro x w tr hx
  obtain ⟨turn, s⟩ := x
  cases turn with
  | again handles => exact .done hx
  | exit rc => exact .done hx

/-- What holds behind a part of the program, by what it answered. -/
theorem safe_either {α : Type} {m : CaptureM α} (yes : α → Bool)
    {P : α × BeastieCaptureState → CaptureWorld → CaptureTrace → Prop}
    {R E : BeastieCaptureState → CaptureWorld → CaptureTrace → Prop} {s : BeastieCaptureState}
    {w : CaptureWorld} {tr : CaptureTrace} (h : Safe captureEnv ok I P (m s) w tr)
    (on : ∀ x w tr, yes x.1 = true → P x w tr → R x.2 w tr)
    (off : ∀ x w tr, yes x.1 = false → P x w tr → E x.2 w tr) :
    Safe captureEnv ok I (fun x => if yes x.1 then R x.2 else E x.2) (m s) w tr := by
  apply h.weaken fun _ _ _ h => h
  intro x w tr hx
  cases answer : yes x.1 with
  | true => exact on x w tr answer hx
  | false => exact off x w tr answer hx

/-- The outline of a start from that of its two parts. -/
theorem safe_captureStart {F : BeastieCaptureState → CaptureWorld → CaptureTrace → Prop}
    {s : BeastieCaptureState} {w : CaptureWorld} {tr : CaptureTrace}
    (setUp : Safe captureEnv ok I (fun x => if x.1.2 then J x.2 else F x.2) (captureSetUp s) w tr)
    (left : ∀ handles s w tr, F s w tr →
      Safe captureEnv ok I (fun x => Q 1 x.2) (captureCleanup handles s) w tr) :
    Safe captureEnv ok I (AtTurn J Q) (captureStart s) w tr := by
  refine Safe.seq setUp ?_
  rintro ⟨handles, ready⟩ s w tr h
  cases ready with
  | true => exact .done h
  | false => exact Safe.seq (left handles s w tr h) fun _ _ _ _ h => .done h

/-- The outline of a pass from those of its parts: `R` behind a test that read
1, `E` behind one that read 0, `T` behind a poll, and `F` behind the second test. -/
theorem safe_capturePass {R E : BeastieCaptureState → CaptureWorld → CaptureTrace → Prop}
    {T F : MemifErr → BeastieCaptureState → CaptureWorld → CaptureTrace → Prop}
    (test : ∀ s w tr, J s w tr →
      Safe captureEnv ok I (fun x => if x.1 then R x.2 else E x.2) (keepRunning s) w tr)
    (poll : ∀ s w tr, R s w tr →
      Safe captureEnv ok I (fun x => T x.1 x.2) (memifPollEvent s) w tr)
    (retest : ∀ err s w tr, T err s w tr →
      Safe captureEnv ok I (fun x => if x.1 then F err x.2 else E x.2) (keepRunning s) w tr)
    (again : ∀ err s w tr, ¬ (err ≠ .success ∧ err ≠ .pollCancel) → F err s w tr → J s w tr)
    (wrong : ∀ handles err s w tr, err ≠ .success ∧ err ≠ .pollCancel → F err s w tr →
      Safe captureEnv ok I (fun x => Q 1 x.2) (captureAbort handles err s) w tr)
    (ending : ∀ handles s w tr, E s w tr →
      Safe captureEnv ok I (fun x => Q x.1 x.2) (captureFinish handles s) w tr)
    (handles : CaptureHandles) (s : BeastieCaptureState) (w : CaptureWorld) (tr : CaptureTrace)
    (now : J s w tr) :
    Safe captureEnv ok I (AtTurn J Q) (capturePass handles s) w tr := by
  have finish : ∀ s w tr, E s w tr → Safe captureEnv ok I (AtTurn J Q)
      ((captureFinish handles >>= fun rc => pure (.exit rc) : CaptureM CaptureTurn) s) w tr :=
    fun s w tr h => Safe.seq (ending handles s w tr h) fun _ _ _ _ h => .done h
  refine Safe.seq (test s w tr now) ?_
  intro running s w tr h
  cases running with
  | false => exact finish s w tr h
  | true =>
    refine Safe.seq (poll s w tr h) ?_
    intro err s w tr h
    refine Safe.seq (retest err s w tr h) ?_
    intro running s w tr h
    cases running with
    | false => exact finish s w tr h
    | true =>
      rw [if_pos rfl]
      by_cases failed : err ≠ .success ∧ err ≠ .pollCancel
      · rw [if_pos failed]
        exact Safe.seq (wrong handles err s w tr failed h) fun _ _ _ _ h => .done h
      · rw [if_neg failed]
        exact .done (again err s w tr failed h)

/-- A start that is safe up to the loop test, and a pass that is safe from the
loop test back to it, keep every run within the outline. -/
theorem capture_meets {config : BeastieCaptureConfig} {files : CLib.CString → FileContent}
    (start : Safe captureEnv ok I (AtTurn J Q) (captureStart (beastieCaptureStateInit config))
      ⟨true, true, .initial files⟩ [])
    (pass : ∀ handles s w tr, J s w tr →
      Safe captureEnv ok I (AtTurn J Q) (capturePass handles s) w tr)
    (quietInv : ∀ s w tr, J s w tr → ok none w tr .interrupt →
      J s (handleSignal w) (tr ++ [.interrupt]))
    (quietPost : ∀ rc s w tr, Q rc s w tr → ok none w tr .interrupt →
      Q rc s (handleSignal w) (tr ++ [.interrupt]))
    {x : CaptureConfiguration} (run : CaptureRun ok config files x) :
    Meets I (fun x => J x.2) (fun x => Q x.1 x.2) x := by
  refine run_meets ?_ ?_ run (safe_withVars start)
  · rintro ⟨handles, s⟩ w tr h
    exact safe_withVars (pass handles s w tr h)
  · rintro (⟨handles, s⟩ | ⟨rc, s⟩) w tr h met
    · exact quietInv s w tr h met
    · exact quietPost rc s w tr h met

/-- A call the run waits at satisfies `I`, and behind it the invariant holds or
the postcondition: what all of them have in common holds of every state. -/
theorem meets_vars {P : BeastieCaptureState → Prop} {x : CaptureConfiguration}
    (meets : Meets I (fun x => J x.2) (fun x => Q x.1 x.2) x)
    (call : ∀ s c next, x.control = .call (s, c) next → I (s, c) x.world x.trace → P s)
    (again : ∀ s, J s x.world x.trace → P s) (exit : ∀ rc s, Q rc s x.world x.trace → P s) :
    P (captureVars x) := by
  unfold Meets at meets
  unfold captureVars
  split at meets
  · rename_i c next control
    rw [control]
    exact call c.1 c.2 next control meets
  · rename_i turn control
    rw [control]
    cases turn with
    | again y => exact again y.2 meets
    | exit y => exact exit y.1 y.2 meets

end Outline

end BeastieBoy
