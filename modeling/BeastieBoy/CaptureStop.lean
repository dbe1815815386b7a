import BeastieBoy.CaptureUndisturbed

/-!
# Stopping a capture

`handle_signal` clears a flag that the loop tests before each poll. The test
and the start of the poll are two steps.
-/

namespace BeastieBoy

open Interact Local

/-- No signal comes between a loop test that read 1 and the start of its poll. -/
def TestThenPoll : CaptureGuard := fun pending _ _ a =>
  isSignal a = true → ∀ s, pending ≠ some (s, .memifPollEvent)

theorem testThenPoll_did (pending : Option (BeastieCaptureState × CaptureCall)) (w : CaptureWorld)
    (tr : CaptureTrace) (e : Event fun c : BeastieCaptureState × CaptureCall => CaptureReply c.2) :
    TestThenPoll pending w tr (.did e) := by
  intro signal
  cases signal

/-- The last poll started before any signal, and nothing but signals came since. -/
def WaitsFromStart (tr : CaptureTrace) : Prop :=
  ∃ t s u, tr = t ++ .did ⟨(s, .memifPollEvent), ()⟩ :: u ∧ ¬ Had isSignal t ∧
    ∀ a ∈ u, isSignal a = true

/-- In the loop: the capture is registered. -/
structure Looping (w : CaptureWorld) (tr : CaptureTrace) : Prop where
  active : w.active = true
  heard : Heard w tr
  prompt : NoneAfter isSignal isPollStart tr

def PromptAt (c : BeastieCaptureState × CaptureCall) (_ : CaptureWorld)
    (tr : CaptureTrace) : Prop :=
  NoneAfter isSignal isPollStart tr ∧ (c.2 = .pollWait → WaitsFromStart tr)

theorem Looping.signal {w : CaptureWorld} {tr : CaptureTrace} (h : Looping w tr) :
    Looping (handleSignal w) (tr ++ [.interrupt]) :=
  ⟨by rw [handleSignal_active, h.active], heard_signal w tr, h.prompt.concat rfl⟩

theorem isPollStart_eq_false {s : BeastieCaptureState} {c : CaptureCall} {r : CaptureReply c}
    (h : c ≠ .memifPollEvent) : isPollStart (.did ⟨(s, c), r⟩) = false := by
  cases c <;> first | rfl | exact absurd rfl h

theorem Looping.serve {w w' : CaptureWorld} {tr : CaptureTrace} {s : BeastieCaptureState}
    {c : CaptureCall} {r : CaptureReply c} (h : Looping w tr) (served : captureServe w (s, c) r w')
    (here : c ≠ .detach) (later : c ≠ .memifPollEvent) :
    Looping w' (tr ++ [.did ⟨(s, c), r⟩]) :=
  ⟨by rw [serve_active served here, h.active], h.heard.serve served,
    h.prompt.concat (isPollStart_eq_false later)⟩

/-- A part of the program that neither polls nor unregisters keeps it so. -/
theorem safe_looping {K : CaptureCall → Prop} {α : Type} {m : CaptureM α} (uses : Uses K m)
    (hK : ∀ c, K c → c ≠ .detach ∧ c ≠ .memifPollEvent ∧ c ≠ .pollWait) {s : BeastieCaptureState}
    {w : CaptureWorld} {tr : CaptureTrace} (now : Looping w tr) :
    Safe captureEnv TestThenPoll PromptAt (fun _ => Looping) (m s) w tr := by
  apply Safe.through uses ?_ ?_ ?_ now
  · intro s c w tr hc h
    exact ⟨h.prompt, fun wait => absurd wait (hK c hc).2.2⟩
  · intro s c w tr hc h met
    exact h.signal
  · intro s c w tr r w' hc h served met
    exact h.serve served (hK c hc).1 (hK c hc).2.1

theorem safe_closing {α : Type} {m : CaptureM α} (uses : Uses Closing m) {s : BeastieCaptureState}
    {w : CaptureWorld} {tr : CaptureTrace} (now : NoneAfter isSignal isPollStart tr) :
    Safe captureEnv TestThenPoll PromptAt (fun _ _ => NoneAfter isSignal isPollStart)
      (m s) w tr := by
  have hK : ∀ c, Closing c → c ≠ .memifPollEvent ∧ c ≠ .pollWait := by
    intro c hc
    constructor <;> rintro rfl <;> exact hc
  apply Safe.through (P := fun _ => NoneAfter isSignal isPollStart) uses ?_ ?_ ?_ now
  · intro s c w tr hc h
    exact ⟨h, fun wait => absurd wait (hK c hc).2⟩
  · intro s c w tr hc h met
    exact h.concat rfl
  · intro s c w tr r w' hc h served met
    exact h.concat (isPollStart_eq_false (hK c hc).1)

theorem inCallback_apart {c : CaptureCall} (h : InCallback c) :
    c ≠ .detach ∧ c ≠ .memifPollEvent ∧ c ≠ .pollWait := by
  refine ⟨?_, ?_, ?_⟩ <;> rintro rfl <;> exact h.elim id id

/-- A poll that starts with no signal so far. -/
theorem safe_memifPollEvent {s : BeastieCaptureState} {w : CaptureWorld} {tr : CaptureTrace}
    (now : Looping w tr) (silent : ¬ Had isSignal tr) :
    Safe captureEnv TestThenPoll PromptAt (fun _ => Looping) (memifPollEvent s) w tr := by
  -- The guard keeps the signal out of this one step.
  refine Safe.ask (c := .memifPollEvent) (fun w tr => Looping w tr ∧ ¬ Had isSignal tr)
    ⟨now, silent⟩ ?_ ?_ ?_
  · intro w tr h met
    exact absurd rfl (met rfl s)
  · intro w tr h
    exact ⟨h.1.prompt, by simp⟩
  rintro w tr r w' ⟨h, silent⟩ served met
  have started : Looping w' (tr ++ [.did ⟨(s, .memifPollEvent), r⟩]) :=
    ⟨by rw [serve_active (s := s) (c := .memifPollEvent) (r := r) served (by simp), h.active],
      h.heard.serve (c := .memifPollEvent) served,
      noneAfter_concat_iff.2 ⟨h.prompt, fun _ => silent⟩⟩
  refine Safe.ask (c := .pollWait) (fun w tr => Looping w tr ∧ WaitsFromStart tr)
    ⟨started, tr, s, [], rfl, silent, by simp⟩ ?_ ?_ ?_
  · rintro w _ ⟨h, t, s, u, rfl, none, only⟩ met
    refine ⟨h.signal, t, s, u ++ [.interrupt], by simp, none, ?_⟩
    intro a ha
    rcases List.mem_append.1 ha with ha | ha
    · exact only a ha
    · rw [List.mem_singleton.1 ha]; rfl
  · exact fun w tr h => ⟨h.1.prompt, fun _ => h.2⟩
  rintro w tr poll w' ⟨h, _⟩ served met
  refine Safe.seq (safe_looping (uses_pollCallbacks _) (fun _ => inCallback_apart)
    (h.serve (c := .pollWait) served (by simp) (by simp))) ?_
  intro early s w tr h
  refine Safe.seq (safe_looping (K := fun c => ∃ err, c = .pollReturn err)
    (reads_call ⟨_, rfl⟩).uses
    ?_ h) ?_
  · rintro c ⟨err, rfl⟩
    exact ⟨by simp, by simp, by simp⟩
  · exact fun _ s w tr h => .done h

/-- A read of the flag: if it reads 1 no signal has come. -/
theorem safe_keepRunning_prompt {s : BeastieCaptureState} {w : CaptureWorld} {tr : CaptureTrace}
    (now : Looping w tr) :
    Safe captureEnv TestThenPoll PromptAt
      (fun x w tr => Looping w tr ∧ (x.1 = true → ¬ Had isSignal tr)) (keepRunning s) w tr := by
  refine Safe.call Looping now (fun w tr h _ => h.signal) (fun w tr h => ⟨h.prompt, by simp⟩) ?_
  rintro w tr r w' h ⟨rfl, rfl⟩ met
  have later :=
    h.serve (s := s) (c := .keepRunning) (r := w'.keepRunning) ⟨rfl, rfl⟩ (by simp) (by simp)
  refine .done ⟨later, fun reading => ?_⟩
  apply not_had_of_not_off (later.heard.not_had_off later.active reading)
  exact fun a signal => by simp [isOff, signal]

theorem safe_capturePass_prompt (handles : CaptureHandles) (s : BeastieCaptureState)
    (w : CaptureWorld) (tr : CaptureTrace) (now : Looping w tr) :
    Safe captureEnv TestThenPoll PromptAt
      (AtTurn (fun _ => Looping) fun _ _ _ => NoneAfter isSignal isPollStart)
      (capturePass handles s) w tr := by
  refine safe_capturePass (R := fun _ w tr => Looping w tr ∧ ¬ Had isSignal tr)
    (E := fun _ => Looping) (T := fun _ _ => Looping) (F := fun _ _ => Looping)
    ?_ ?_ ?_ ?_ ?_ ?_ handles s w tr now
  · intro s w tr h
    exact safe_either id (R := fun _ w tr => Looping w tr ∧ ¬ Had isSignal tr)
      (E := fun _ => Looping)
      (safe_keepRunning_prompt h) (fun _ _ _ reads h => ⟨h.1, h.2 reads⟩) fun _ _ _ _ h => h.1
  · intro s w tr h
    exact safe_memifPollEvent h.1 h.2
  · intro err s w tr h
    exact safe_either id (R := fun _ => Looping) (E := fun _ => Looping) (safe_keepRunning_prompt h)
      (fun _ _ _ _ h => h.1) fun _ _ _ _ h => h.1
  · exact fun _ s w tr _ h => h
  · intro handles err s w tr _ h
    exact safe_closing (reads_captureAbort handles err).uses h.prompt
  · intro handles s w tr h
    exact safe_closing (reads_captureFinish handles).uses h.prompt

theorem looping_start (files : CLib.CString → FileContent) :
    Looping ⟨true, true, .initial files⟩ [] :=
  ⟨rfl, heard_start files, noneAfter_nil⟩

/-- **A stop request starts no further poll**, in every state of every run where
no signal comes between a loop test that read 1 and the start of its poll. A
poll that waits got every signal of the run while it was waiting. -/
theorem no_poll_after_signal {config : BeastieCaptureConfig} {files : CLib.CString → FileContent}
    {x : CaptureConfiguration} (run : CaptureRun TestThenPoll config files x) :
    NoneAfter isSignal isPollStart x.trace ∧
      ∀ s next, x.control = .call (s, .pollWait) next → WaitsFromStart x.trace := by
  have start : Safe captureEnv TestThenPoll PromptAt
      (AtTurn (fun _ => Looping) fun _ _ _ => NoneAfter isSignal isPollStart)
      (captureStart (beastieCaptureStateInit config)) ⟨true, true, .initial files⟩ [] := by
    refine safe_captureStart (F := fun _ => Looping) ?_ ?_
    · have setUp : Uses InCallback captureSetUp :=
        (reads_captureSetUp_housekeeping.mono fun _ => housekeeping_inCallback).uses
      exact safe_either Prod.snd (R := fun _ => Looping) (E := fun _ => Looping)
        (safe_looping setUp (fun _ => inCallback_apart) (looping_start files)) (fun _ _ _ _ h => h)
        fun _ _ _ _ h => h
    · exact fun handles s w tr h =>
        safe_closing (reads_captureCleanup_closing handles).uses h.prompt
  have meets := capture_meets start safe_capturePass_prompt
    (fun _ _ _ h _ => h.signal) (fun _ _ _ _ h _ => h.concat rfl) run
  constructor
  · apply meets_vars (J := fun _ => Looping) (Q := fun _ _ _ => NoneAfter isSignal isPollStart)
      (P := fun _ => NoneAfter isSignal isPollStart x.trace) meets
    · exact fun s c next _ h => h.1
    · exact fun s h => h.prompt
    · exact fun rc s h => h
  · intro s next waiting
    unfold Meets at meets
    rw [waiting] at meets
    exact meets.2 rfl

/-- A signal between the test and the poll: the poll starts all the same, and
waits with the flag at 0. -/
theorem poll_starts_after_signal : ∃ x, CaptureRun Guard.free (defaultCapture 0 (by decide))
    (fun _ => .absent) x ∧ x.world.keepRunning = false ∧
    (∃ s next, x.control = .call (s, .pollWait) next) ∧
    ¬ NoneAfter isSignal isPollStart x.trace := by
  obtain ⟨tr, run, _⟩ := reaches_loop_test Guard.free ⟨⟨[], .success⟩, [], ⟨true, .opened, 0, 0⟩⟩
    (fun _ _ _ => trivial) (defaultCapture 0 (by decide)) fun _ => .absent
  have tested := run.tail (.reply (r := true) ⟨rfl, rfl⟩ trivial)
  have started := (tested.tail (.interrupt trivial)).tail (.reply (r := ()) rfl trivial)
  refine ⟨_, started, rfl, ⟨_, _, rfl⟩, ?_⟩
  rw [noneAfter_concat_iff]
  rintro ⟨_, none⟩
  exact none rfl (had_concat_iff.2 (.inr rfl))

/-- A signal that finds the poll waiting meets the condition. -/
theorem signal_while_waiting : ∃ x, CaptureRun TestThenPoll (defaultCapture 0 (by decide))
    (fun _ => .absent) x ∧ Had isSignal x.trace ∧ Had isPollStart x.trace ∧
    NoneAfter isSignal isPollStart x.trace := by
  obtain ⟨tr, run, _⟩ := reaches_loop_test TestThenPoll
    ⟨⟨[], .success⟩, [], ⟨true, .opened, 0, 0⟩⟩ (fun _ _ _ => testThenPoll_did _ _ _ _)
    (defaultCapture 0 (by decide)) fun _ => .absent
  have tested := run.tail (.reply (r := true) ⟨rfl, rfl⟩ (testThenPoll_did _ _ _ _))
  have waits := tested.tail (.reply (r := ()) rfl (testThenPoll_did _ _ _ _))
  have signalled := waits.tail (.interrupt fun _ s h => by cases h)
  refine ⟨_, signalled, had_concat_iff.2 (.inr rfl), ?_, (no_poll_after_signal signalled).1⟩
  exact (had_concat_iff.2 (.inr rfl)).concat

/-! ## One callback a poll -/

/-- Each poll invokes `on_interrupt` at most once. -/
def OncePerPoll : CaptureGuard := fun _ _ _ a =>
  match a with
  | .did ⟨(_, .pollWait), poll⟩ => poll.callbacks.countP isOnInterrupt ≤ 1
  | _ => True

/-- No burst was taken after a `stop`, and at most `n` after the flag fell. -/
structure Few (n : Nat) (tr : CaptureTrace) : Prop where
  orderly : NoneAfter isStop isRxBurst tr
  few : AtMostAfter n isOff isRxBurst tr

structure FewLooping (n : Nat) (w : CaptureWorld) (tr : CaptureTrace) : Prop extends Few n tr where
  active : w.active = true
  heard : Heard w tr

theorem Few.concat {n : Nat} {tr : CaptureTrace} {a : CaptureAct} (h : Few n tr)
    (ha : isRxBurst a = false) : Few n (tr ++ [a]) :=
  ⟨h.orderly.concat ha, h.few.concat (by simp [ha])⟩

theorem Few.burst {n : Nat} {tr : CaptureTrace} {a : CaptureAct} (h : Few n tr)
    (going : ¬ Had isStop tr) : Few (n + 1) (tr ++ [a]) :=
  ⟨noneAfter_concat_iff.2 ⟨h.orderly, fun _ => going⟩, h.few.succ⟩

theorem Few.mono {m n : Nat} {tr : CaptureTrace} (h : Few n tr) (hm : n ≤ m) : Few m tr :=
  ⟨h.orderly, h.few.mono hm⟩

theorem isRxBurst_eq_false {s : BeastieCaptureState} {c : CaptureCall} {r : CaptureReply c}
    (h : ∀ qid count, c ≠ .memifRxBurst qid count) : isRxBurst (.did ⟨(s, c), r⟩) = false := by
  cases c <;> first | rfl | exact absurd rfl (h _ _)

theorem FewLooping.signal {n : Nat} {w : CaptureWorld} {tr : CaptureTrace} (h : FewLooping n w tr) :
    FewLooping n (handleSignal w) (tr ++ [.interrupt]) :=
  ⟨h.toFew.concat rfl, by rw [handleSignal_active, h.active], heard_signal w tr⟩

theorem FewLooping.serve {n : Nat} {w w' : CaptureWorld} {tr : CaptureTrace}
    {s : BeastieCaptureState} {c : CaptureCall} {r : CaptureReply c} (h : FewLooping n w tr)
    (served : captureServe w (s, c) r w') (here : c ≠ .detach)
    (other : ∀ qid count, c ≠ .memifRxBurst qid count) :
    FewLooping n w' (tr ++ [.did ⟨(s, c), r⟩]) :=
  ⟨h.toFew.concat (isRxBurst_eq_false other), by rw [serve_active served here, h.active],
    h.heard.serve served⟩

theorem isStop_eq_false {s : BeastieCaptureState} {c : CaptureCall} {r : CaptureReply c}
    (h : c ≠ .stop) :
    isStop (.did ⟨(s, c), r⟩) = false := by
  cases c <;> first | rfl | exact absurd rfl h

/-- In a poll before its burst: nothing has stopped the capture. -/
def Going (w : CaptureWorld) (tr : CaptureTrace) : Prop := FewLooping 0 w tr ∧ ¬ Had isStop tr

theorem Going.signal {w : CaptureWorld} {tr : CaptureTrace} (h : Going w tr) :
    Going (handleSignal w) (tr ++ [.interrupt]) := ⟨h.1.signal, not_had_concat h.2 rfl⟩

theorem Going.serve {w w' : CaptureWorld} {tr : CaptureTrace} {s : BeastieCaptureState}
    {c : CaptureCall} {r : CaptureReply c} (h : Going w tr) (served : captureServe w (s, c) r w')
    (here : c ≠ .detach) (other : ∀ qid count, c ≠ .memifRxBurst qid count) (go : c ≠ .stop) :
    Going w' (tr ++ [.did ⟨(s, c), r⟩]) :=
  ⟨h.1.serve served here other, not_had_concat h.2 (isStop_eq_false go)⟩

theorem Going.few {w : CaptureWorld} {tr : CaptureTrace} (h : Going w tr) : Few 1 tr :=
  h.1.toFew.mono (Nat.zero_le 1)

theorem housekeeping_apart {c : CaptureCall} (h : Housekeeping c) :
    (c ≠ .detach ∧ ∀ qid count, c ≠ .memifRxBurst qid count) ∧ c ≠ .stop := by
  refine ⟨⟨?_, ?_⟩, ?_⟩
  · rintro rfl
    exact h
  · rintro qid count rfl
    exact h
  · rintro rfl
    exact h

theorem afterBurst_apart {c : CaptureCall} (h : AfterBurst c) :
    c ≠ .detach ∧ ∀ qid count, c ≠ .memifRxBurst qid count := by
  constructor
  · rintro rfl
    exact h
  · rintro qid count rfl
    exact h

/-- The states of a run in which each poll has one callback. -/
def FewAt (_ : BeastieCaptureState × CaptureCall) (_ : CaptureWorld) (tr : CaptureTrace) : Prop :=
  Few 1 tr

/-- A part of the program that takes no burst and does not unregister. -/
theorem safe_few {K : CaptureCall → Prop} {α : Type} {m : CaptureM α} (uses : Uses K m) {n : Nat}
    (hn : n ≤ 1) (hK : ∀ c, K c → c ≠ .detach ∧ ∀ qid count, c ≠ .memifRxBurst qid count)
    {s : BeastieCaptureState} {w : CaptureWorld} {tr : CaptureTrace} (now : FewLooping n w tr) :
    Safe captureEnv OncePerPoll FewAt (fun _ => FewLooping n) (m s) w tr := by
  apply Safe.through uses ?_ ?_ ?_ now
  · intro s c w tr hc h
    exact h.toFew.mono hn
  · intro s c w tr hc h met
    exact h.signal
  · intro s c w tr r w' hc h served met
    exact h.serve served (hK c hc).1 (hK c hc).2

theorem safe_few_closing {α : Type} {m : CaptureM α} (uses : Uses Closing m)
    {s : BeastieCaptureState} {w : CaptureWorld} {tr : CaptureTrace} (now : Few 1 tr) :
    Safe captureEnv OncePerPoll FewAt (fun _ _ => Few 1) (m s) w tr := by
  apply Safe.through (P := fun _ => Few 1) uses ?_ ?_ ?_ now
  · exact fun s c w tr hc h => h
  · exact fun s c w tr hc h met => h.concat rfl
  · intro s c w tr r w' hc h served met
    apply h.concat (isRxBurst_eq_false _)
    rintro qid count rfl
    exact hc

theorem safe_going {α : Type} {m : CaptureM α} (uses : Uses Housekeeping m)
    {s : BeastieCaptureState} {w : CaptureWorld} {tr : CaptureTrace} (now : Going w tr) :
    Safe captureEnv OncePerPoll FewAt (fun _ => Going) (m s) w tr := by
  apply Safe.through uses ?_ ?_ ?_ now
  · exact fun s c w tr hc h => h.few
  · exact fun s c w tr hc h met => h.signal
  · intro s c w tr r w' hc h served met
    obtain ⟨⟨here, other⟩, go⟩ := housekeeping_apart hc
    exact h.serve served here other go

theorem safe_onInterrupt_few (qid : Nat) {s : BeastieCaptureState} {w : CaptureWorld}
    {tr : CaptureTrace} (now : Going w tr) :
    Safe captureEnv OncePerPoll FewAt (fun _ => FewLooping 1) (onInterrupt qid s) w tr := by
  obtain ⟨rest, eq, after⟩ := onInterrupt_burst qid
  rw [eq]
  refine Safe.ask (c := .memifRxBurst qid maxMemifBufs) Going now ?_ ?_ ?_
  · exact fun w tr h met => h.signal
  · exact fun w tr h => h.few
  rintro w tr burst w' ⟨h, going⟩ served met
  have active :=
    serve_active (s := s) (c := .memifRxBurst qid maxMemifBufs) (r := burst) served (by simp)
  have taken : FewLooping 1 w' (tr ++ [.did ⟨(s, .memifRxBurst qid maxMemifBufs), burst⟩]) :=
    ⟨h.toFew.burst going, by rw [active, h.active], h.heard.serve (c := .memifRxBurst _ _) served⟩
  exact safe_few (after burst) (Nat.le_refl 1) (fun _ => afterBurst_apart) taken

theorem safe_pollCallbacks_spent (callbacks : List MemifCallback)
    (none : callbacks.countP isOnInterrupt = 0) {s : BeastieCaptureState} {w : CaptureWorld}
    {tr : CaptureTrace} (now : FewLooping 1 w tr) :
    Safe captureEnv OncePerPoll FewAt (fun _ => FewLooping 1) (pollCallbacks callbacks s) w tr := by
  have quiet (c : CaptureCall) (hc : Housekeeping c) := (housekeeping_apart hc).1
  induction callbacks generalizing s w tr with
  | nil => exact .done now
  | cons callback rest ih =>
    cases callback with
    | connect =>
      exact Safe.seq (safe_few reads_onConnect.uses (Nat.le_refl 1) quiet now) fun _ _ _ _ h =>
        ih (by simpa [isOnInterrupt] using none) h
    | disconnect =>
      exact Safe.seq (safe_few reads_onDisconnect.uses (Nat.le_refl 1) quiet now) fun _ _ _ _ h =>
        ih (by simpa [isOnInterrupt] using none) h
    | interrupt qid => simp [isOnInterrupt] at none

theorem safe_pollCallbacks_few (callbacks : List MemifCallback)
    (once : callbacks.countP isOnInterrupt ≤ 1) {s : BeastieCaptureState} {w : CaptureWorld}
    {tr : CaptureTrace} (now : Going w tr) :
    Safe captureEnv OncePerPoll FewAt (fun _ => FewLooping 1) (pollCallbacks callbacks s) w tr := by
  induction callbacks generalizing s w tr with
  | nil => exact .done ⟨now.few, now.1.active, now.1.heard⟩
  | cons callback rest ih =>
    cases callback with
    | connect =>
      exact Safe.seq (safe_going reads_onConnect.uses now) fun _ _ _ _ h =>
        ih (by simpa [isOnInterrupt] using once) h
    | disconnect =>
      exact Safe.seq (safe_going reads_onDisconnect.uses now) fun _ _ _ _ h =>
        ih (by simpa [isOnInterrupt] using once) h
    | interrupt qid =>
      refine Safe.seq (safe_onInterrupt_few qid now) ?_
      intro err s w tr h
      by_cases failed : err ≠ .success
      · rw [if_pos failed]
        exact .done h
      · rw [if_neg failed]
        refine safe_pollCallbacks_spent rest ?_ h
        rw [List.countP_cons_of_pos rfl] at once
        omega

/-- A read of the flag: if it reads 1 nothing has cleared it. -/
theorem safe_keepRunning_few {s : BeastieCaptureState} {w : CaptureWorld} {tr : CaptureTrace}
    (now : FewLooping 1 w tr) :
    Safe captureEnv OncePerPoll FewAt
      (fun x w tr => FewLooping 1 w tr ∧ (x.1 = true → ¬ Had isOff tr)) (keepRunning s) w tr := by
  refine Safe.call (FewLooping 1) now (fun w tr h _ => h.signal) (fun w tr h => h.toFew) ?_
  rintro w tr r w' h ⟨rfl, rfl⟩ met
  have later :=
    h.serve (s := s) (c := .keepRunning) (r := w'.keepRunning) ⟨rfl, rfl⟩ (by simp) (by simp)
  exact .done ⟨later, later.heard.not_had_off later.active⟩

theorem safe_memifPollEvent_few {s : BeastieCaptureState} {w : CaptureWorld} {tr : CaptureTrace}
    (now : Going w tr) :
    Safe captureEnv OncePerPoll FewAt (fun _ => FewLooping 1) (memifPollEvent s) w tr := by
  refine Safe.ask (c := .memifPollEvent) Going now ?_ ?_ ?_
  · exact fun w tr h met => h.signal
  · exact fun w tr h => h.few
  rintro w tr r w' h served met
  have started :=
    h.serve (s := s) (c := .memifPollEvent) (r := r) served (by simp) (by simp) (by simp)
  refine Safe.ask (c := .pollWait) Going started ?_ ?_ ?_
  · exact fun w tr h met => h.signal
  · exact fun w tr h => h.few
  rintro w tr poll w' h served met
  have waited := h.serve (s := s) (c := .pollWait) (r := poll) served (by simp) (by simp) (by simp)
  refine Safe.seq (safe_pollCallbacks_few poll.callbacks met waited) ?_
  intro early s w tr h
  refine Safe.seq (safe_few (K := fun c => ∃ err, c = .pollReturn err) (reads_call ⟨_, rfl⟩).uses
    (Nat.le_refl 1) ?_ h) fun _ _ _ _ h => .done h
  rintro c ⟨err, rfl⟩
  exact ⟨by simp, by simp⟩

theorem safe_capturePass_few (handles : CaptureHandles) (s : BeastieCaptureState)
    (w : CaptureWorld) (tr : CaptureTrace) (now : FewLooping 1 w tr) :
    Safe captureEnv OncePerPoll FewAt (AtTurn (fun _ => FewLooping 1) fun _ _ _ => Few 1)
      (capturePass handles s) w tr := by
  refine safe_capturePass (R := fun _ w tr => FewLooping 1 w tr ∧ ¬ Had isOff tr)
    (E := fun _ => FewLooping 1) (T := fun _ _ => FewLooping 1) (F := fun _ _ => FewLooping 1)
    ?_ ?_ ?_ ?_ ?_ ?_ handles s w tr now
  · intro s w tr h
    exact safe_either id (R := fun _ w tr => FewLooping 1 w tr ∧ ¬ Had isOff tr)
      (E := fun _ => FewLooping 1) (safe_keepRunning_few h) (fun _ _ _ reads h => ⟨h.1, h.2 reads⟩)
      fun _ _ _ _ h => h.1
  · intro s w tr h
    have going : ¬ Had isStop tr := not_had_of_not_off h.2 fun a stop => by simp [isOff, stop]
    exact safe_memifPollEvent_few
      ⟨⟨⟨h.1.orderly, atMostAfter_of_not_had h.2⟩, h.1.active, h.1.heard⟩, going⟩
  · intro err s w tr h
    exact safe_either id (R := fun _ => FewLooping 1) (E := fun _ => FewLooping 1)
      (safe_keepRunning_few h) (fun _ _ _ _ h => h.1) fun _ _ _ _ h => h.1
  · exact fun _ s w tr _ h => h
  · intro handles err s w tr _ h
    exact safe_few_closing (reads_captureAbort handles err).uses h.toFew
  · intro handles s w tr h
    exact safe_few_closing (reads_captureFinish handles).uses h.toFew

/-- **One callback a poll takes no burst behind a stop**, and at most one behind
whatever cleared the flag, in every state of every such run. -/
theorem few_bursts {config : BeastieCaptureConfig} {files : CLib.CString → FileContent}
    {x : CaptureConfiguration} (run : CaptureRun OncePerPoll config files x) : Few 1 x.trace := by
  have begin : FewLooping 1 ⟨true, true, .initial files⟩ [] :=
    ⟨⟨noneAfter_nil, atMostAfter_of_not_had not_had_nil⟩, rfl, heard_start files⟩
  have start : Safe captureEnv OncePerPoll FewAt
      (AtTurn (fun _ => FewLooping 1) fun _ _ _ => Few 1)
      (captureStart (beastieCaptureStateInit config)) ⟨true, true, .initial files⟩ [] := by
    refine safe_captureStart (F := fun _ => FewLooping 1) ?_ ?_
    · have setUp : Uses Housekeeping captureSetUp := reads_captureSetUp_housekeeping.uses
      exact safe_either Prod.snd (R := fun _ => FewLooping 1) (E := fun _ => FewLooping 1)
        (safe_few setUp (Nat.le_refl 1) (fun _ hc => (housekeeping_apart hc).1) begin)
        (fun _ _ _ _ h => h) fun _ _ _ _ h => h
    · exact fun handles s w tr h =>
        safe_few_closing (reads_captureCleanup_closing handles).uses h.toFew
  have meets := capture_meets start safe_capturePass_few (fun _ _ _ h _ => h.signal)
    (fun _ _ _ _ h _ => h.concat rfl) run
  apply meets_vars (J := fun _ => FewLooping 1) (Q := fun _ _ _ => Few 1)
    (P := fun _ => Few 1 x.trace) meets
  · exact fun s c next _ h => h
  · exact fun s h => h.toFew
  · exact fun rc s h => h

end BeastieBoy
