import BeastieBoy.CaptureUndisturbed

/-!
# The accounts of a capture

What `on_interrupt` has written since the last flush, and the buffers it took
from each queue and handed back, read off the calls of a run. One call that
returns 0 keeps both accounts, and one that does not ends the loop.
-/

namespace BeastieBoy

open CLib Interact Local

abbrev CaptureEvent := Event fun c : BeastieCaptureState × CaptureCall => CaptureReply c.2

/-- Bytes written and not flushed yet, behind one more call. -/
def flushStep (bytes : Nat) : CaptureEvent → Nat
  | ⟨(_, .writePcapPacket _ buf), r⟩ => if r = 0 then bytes + buf.len else bytes
  | ⟨(_, .flushPcapWriter), r⟩ => if r = 0 then 0 else bytes
  | _ => bytes

/-- The bytes written since the last successful flush. -/
def bytesSinceFlush (evs : List CaptureEvent) : Nat := evs.foldl flushStep 0

def eventReceived (qid : Nat) : CaptureEvent → Nat
  | ⟨(_, .memifRxBurst q _), r⟩ => if q = qid then r.bufs.length else 0
  | _ => 0

/-- What one refill hands back. That of `on_connect`, of `(uint16_t)-1` buffers,
hands back none that were received. -/
def eventHandedBack (qid : Nat) : CaptureEvent → Nat
  | ⟨(_, .memifRefillQueue q count), r⟩ =>
    if q = qid ∧ r = .success ∧ count ≠ 2 ^ 16 - 1 then count else 0
  | _ => 0

/-- The buffers `memif_rx_burst` delivered from a queue. -/
def received (qid : Nat) (evs : List CaptureEvent) : Nat := (evs.map (eventReceived qid)).sum

/-- The buffers `memif_refill_queue` gave back to a queue. -/
def handedBack (qid : Nat) (evs : List CaptureEvent) : Nat := (evs.map (eventHandedBack qid)).sum

theorem received_append (qid : Nat) (t u : List CaptureEvent) :
    received qid (t ++ u) = received qid t + received qid u := by simp [received]

theorem handedBack_append (qid : Nat) (t u : List CaptureEvent) :
    handedBack qid (t ++ u) = handedBack qid t + handedBack qid u := by simp [handedBack]

theorem received_cons (qid : Nat) (e : CaptureEvent) (t : List CaptureEvent) :
    received qid (e :: t) = eventReceived qid e + received qid t := by simp [received]

theorem handedBack_cons (qid : Nat) (e : CaptureEvent) (t : List CaptureEvent) :
    handedBack qid (e :: t) = eventHandedBack qid e + handedBack qid t := by simp [handedBack]

/-! ## What libmemif promises -/

/-- Only a cancelled poll yields `MEMIF_ERR_POLL_CANCEL`. -/
def OnlyPollsCancel : CaptureGuard := fun _ _ _ a =>
  match a with
  | .did ⟨(_, .memifRxBurst _ _), r⟩ => r.err ≠ .pollCancel
  | .did ⟨(_, .memifRefillQueue _ _), r⟩ => r ≠ .pollCancel
  | _ => True

/-- The same of one event, with what every burst is like. -/
def Trusted : CaptureEvent → Prop
  | ⟨(_, .memifRxBurst _ count), r⟩ => r.bufs.length ≤ count ∧ r.err ≠ .pollCancel
  | ⟨(_, .memifRefillQueue _ _), r⟩ => r ≠ .pollCancel
  | _ => True

theorem trusted_of_answered {e : CaptureEvent} (h : Answered captureEnv OnlyPollsCancel e) :
    Trusted e := by
  obtain ⟨w, tr, w', served, met⟩ := h
  obtain ⟨⟨s, c⟩, r⟩ := e
  cases c with
  | memifRxBurst qid count => exact ⟨served.2.1, met⟩
  | memifRefillQueue qid count => exact met
  | _ => trivial

/-! ## Calls outside the accounts -/

/-- No queue is touched, except by the refill of `on_connect`. -/
def OffQueue : CaptureCall → Prop
  | .memifRxBurst .. => False
  | .memifRefillQueue _ count => count = 2 ^ 16 - 1
  | _ => True

/-- Nothing is written or flushed either. -/
def Uncounted : CaptureCall → Prop
  | .flushPcapWriter => False
  | .writePcapPacket .. => False
  | c => OffQueue c

theorem writing_offQueue {c : CaptureCall} (h : Writing c) : OffQueue c := by
  cases c <;> first | exact h.elim | trivial

theorem uncounted_offQueue {c : CaptureCall} (h : Uncounted c) : OffQueue c := by
  cases c <;> first | exact h.elim | exact h

theorem housekeeping_uncounted {c : CaptureCall} (h : Housekeeping c) : Uncounted c := by
  cases c <;> first | exact h.elim | exact h

theorem flushStep_uncounted {s : BeastieCaptureState} {c : CaptureCall} {r : CaptureReply c}
    (h : Uncounted c) (bytes : Nat) : flushStep bytes ⟨(s, c), r⟩ = bytes := by
  cases c with
  | flushPcapWriter => exact h.elim
  | writePcapPacket => exact h.elim
  | _ => rfl

theorem foldl_uncounted {evs : List CaptureEvent} (h : ∀ e ∈ evs, Uncounted e.call.2)
    (bytes : Nat) :
    evs.foldl flushStep bytes = bytes := by
  induction evs with
  | nil => rfl
  | cons e evs ih =>
    rw [List.foldl_cons, flushStep_uncounted (h e List.mem_cons_self)]
    exact ih fun e he => h e (List.mem_cons_of_mem _ he)

theorem event_offQueue {e : CaptureEvent} (h : OffQueue e.call.2) (qid : Nat) :
    eventReceived qid e = 0 ∧ eventHandedBack qid e = 0 := by
  obtain ⟨⟨s, c⟩, r⟩ := e
  cases c with
  | memifRxBurst => exact h.elim
  | memifRefillQueue q count => exact ⟨rfl, if_neg fun back => back.2.2 h⟩
  | _ => exact ⟨rfl, rfl⟩

theorem counts_offQueue {evs : List CaptureEvent} (h : ∀ e ∈ evs, OffQueue e.call.2) (qid : Nat) :
    received qid evs = 0 ∧ handedBack qid evs = 0 := by
  induction evs with
  | nil => exact ⟨rfl, rfl⟩
  | cons e evs ih =>
    obtain ⟨taken, back⟩ := ih fun e he => h e (List.mem_cons_of_mem _ he)
    obtain ⟨taken', back'⟩ := event_offQueue (h e List.mem_cons_self) qid
    exact ⟨by rw [received_cons, taken, taken'], by rw [handedBack_cons, back, back']⟩

/-! ## One call of `on_interrupt` -/

/-- A part of `on_interrupt` that goes on has counted what it wrote; one that
returns an error does not return that of a cancelled poll. -/
def Counts (s : BeastieCaptureState) (evs : List CaptureEvent) (early : Option MemifErr)
    (s' : BeastieCaptureState) : Prop :=
  early = none ∧ s'.bytesSinceLastFlush = evs.foldl flushStep s.bytesSinceLastFlush ∨
    early = some (.other (-1))

/-- Where the flag is cleared nothing is counted. -/
theorem stop_counts {a early : Option MemifErr} {s s' : BeastieCaptureState}
    {evs : List CaptureEvent}
    (h : Follows ((call .stop >>= fun _ => pure a : CaptureM (Option MemifErr)) s) evs
      (early, s')) :
    early = a ∧ s' = s ∧ ∀ bytes, evs.foldl flushStep bytes = bytes := by
  obtain ⟨r, rest, rfl, ended⟩ := follows_ask_iff.1 h
  obtain ⟨rfl, rfl, rfl⟩ := follows_pure_iff.1 ended
  exact ⟨rfl, rfl, fun _ => rfl⟩

theorem loop_counts (bufs : List MemifBuffer) {s s' : BeastieCaptureState} {evs : List CaptureEvent}
    {early : Option MemifErr} (h : Follows (onInterruptLoop bufs s) evs (early, s'))
    (room : s.bytesSinceLastFlush + bufs.length * 2 ^ 32 < 2 ^ 64) : Counts s evs early s' := by
  induction bufs generalizing s evs with
  | nil =>
    obtain ⟨rfl, rfl, rfl⟩ := follows_pure_iff.1 h
    exact .inl ⟨rfl, rfl⟩
  | cons buf bufs ih =>
    have small : buf.len < 2 ^ 32 := buf.len_lt
    rw [List.length_cons] at room
    unfold onInterruptLoop at h
    rw [vars_bind] at h
    split at h
    · obtain ⟨rfl, rfl, same⟩ := stop_counts h
      exact .inl ⟨rfl, (same _).symm⟩
    · obtain ⟨result, evs, rfl, wrote⟩ := follows_ask_iff.1 h
      by_cases bad : result ≠ 0
      · rw [if_pos bad] at wrote
        obtain ⟨r, rest, rfl, stopped⟩ := follows_ask_iff.1 wrote
        exact .inr (stop_counts stopped).1
      · rw [if_neg bad, update_bind, vars_bind] at wrote
        obtain rfl : result = 0 := by simpa using bad
        have counted : (countPacket buf s).bytesSinceLastFlush = s.bytesSinceLastFlush + buf.len :=
          Nat.mod_eq_of_lt (by omega)
        have rest : Counts (countPacket buf s) evs early s' := by
          split at wrote
          · obtain ⟨rfl, rfl, same⟩ := stop_counts wrote
            exact .inl ⟨rfl, (same _).symm⟩
          · exact ih wrote (by omega)
        unfold Counts at rest ⊢
        rw [counted] at rest
        exact rest

theorem flush_counts {s s' : BeastieCaptureState} {evs : List CaptureEvent}
    {early : Option MemifErr} (h : Follows (onInterruptFlush s) evs (early, s')) :
    Counts s evs early s' ∧ (early = none → s'.bytesSinceLastFlush < pcapFlushIntervalBytes) := by
  unfold onInterruptFlush at h
  rw [vars_bind] at h
  by_cases due : pcapFlushIntervalBytes ≤ s.bytesSinceLastFlush
  · rw [if_pos due] at h
    obtain ⟨result, evs, rfl, flushed⟩ := follows_ask_iff.1 h
    by_cases bad : result ≠ 0
    · rw [if_pos bad] at flushed
      obtain ⟨r, rest, rfl, stopped⟩ := follows_ask_iff.1 flushed
      obtain ⟨rfl, rfl, _⟩ := stop_counts stopped
      exact ⟨.inr rfl, nofun⟩
    · rw [if_neg bad, update_bind] at flushed
      obtain rfl : result = 0 := by simpa using bad
      obtain ⟨rfl, rfl, rfl⟩ := follows_pure_iff.1 flushed
      have interval : 0 < pcapFlushIntervalBytes := by decide
      exact ⟨.inl ⟨rfl, rfl⟩, fun _ => interval⟩
  · rw [if_neg due] at h
    obtain ⟨rfl, rfl, rfl⟩ := follows_pure_iff.1 h
    exact ⟨.inl ⟨rfl, rfl⟩, fun _ => Nat.lt_of_not_le due⟩

/-- A refill of a burst hands it back, or fails. -/
theorem refill_hands_back {qid rx : Nat} (fits : rx ≤ maxMemifBufs) {s s' : BeastieCaptureState}
    {evs : List CaptureEvent} {rc : MemifErr}
    (h : Follows (onInterruptRefill qid rx s) evs (rc, s')) (trusted : ∀ e ∈ evs, Trusted e) :
    rc ≠ .pollCancel ∧ (rc = .success → s' = s ∧ (∀ bytes, evs.foldl flushStep bytes = bytes) ∧
      ∀ q, received q evs = 0 ∧ handedBack q evs = if qid = q then rx else 0) := by
  unfold onInterruptRefill at h
  by_cases some : 0 < rx
  · rw [if_pos some] at h
    obtain ⟨err, evs, rfl, refilled⟩ := follows_ask_iff.1 h
    by_cases failed : err ≠ .success
    · rw [if_pos failed] at refilled
      obtain ⟨r, rest, rfl, ended⟩ := follows_ask_iff.1 refilled
      obtain ⟨rfl, rfl, rfl⟩ := follows_pure_iff.1 ended
      exact ⟨trusted _ List.mem_cons_self, fun fine => absurd fine failed⟩
    · rw [if_neg failed] at refilled
      obtain rfl : err = .success := by simpa using failed
      obtain ⟨rfl, rfl, rfl⟩ := follows_pure_iff.1 refilled
      have short : rx ≠ 65535 := by unfold maxMemifBufs at fits; omega
      refine ⟨by simp, fun _ => ⟨rfl, fun _ => rfl, fun q => ⟨rfl, ?_⟩⟩⟩
      simp [handedBack, eventHandedBack, short]
  · rw [if_neg some] at h
    obtain ⟨rfl, rfl, rfl⟩ := follows_pure_iff.1 h
    obtain rfl : rx = 0 := by omega
    exact ⟨by simp, fun _ => ⟨rfl, fun _ => rfl, fun q => ⟨rfl, (ite_self 0).symm⟩⟩⟩

theorem onInterruptEnd_counts {qid rx : Nat} (fits : rx ≤ maxMemifBufs)
    {s s' : BeastieCaptureState} {evs : List CaptureEvent} {rc : MemifErr}
    (h : Follows (onInterruptEnd qid rx s) evs (rc, s')) (trusted : ∀ e ∈ evs, Trusted e) :
    rc ≠ .pollCancel ∧ (rc = .success →
      s'.bytesSinceLastFlush = evs.foldl flushStep s.bytesSinceLastFlush ∧
      s'.bytesSinceLastFlush < pcapFlushIntervalBytes ∧
      ∀ q, received q evs = 0 ∧ handedBack q evs = if qid = q then rx else 0) := by
  obtain ⟨shown, _, s₁, evs₁, rfl, progress, behind⟩ := follows_seq_iff.1 h
  obtain ⟨evs₂, early, s₂, evs₃, rfl, flush, last⟩ := follows_seq_iff.1 behind
  have reads : Reads Uncounted (whenever (0 < rx) printCaptureProgress) :=
    (reads_printCaptureProgress fun _ _ => trivial).whenever
  obtain ⟨quiet, rfl⟩ := progress.of_only (reads s)
  replace quiet : ∀ e ∈ shown, Uncounted e.call.2 := fun e he => (quiet e he).1
  have writing := (flush.of_only (uses_onInterruptFlush _)).1
  obtain ⟨counts, below⟩ := flush_counts flush
  rcases counts with ⟨rfl, flushed⟩ | rfl
  · obtain ⟨other, back⟩ := refill_hands_back fits last fun e he => trusted e (by simp [he])
    refine ⟨other, fun fine => ?_⟩
    obtain ⟨rfl, same, queues⟩ := back fine
    refine ⟨?_, below rfl, fun q => ?_⟩
    · rw [List.foldl_append, List.foldl_append, foldl_uncounted quiet, same, flushed]
    · obtain ⟨taken₁, back₁⟩ := counts_offQueue (fun e he => uncounted_offQueue (quiet e he)) q
      obtain ⟨taken₂, back₂⟩ := counts_offQueue (fun e he => writing_offQueue (writing e he)) q
      obtain ⟨taken₃, back₃⟩ := queues q
      simp only [received_append, handedBack_append, taken₁, taken₂, taken₃, back₁, back₂, back₃,
        Nat.zero_add, true_and]
  · obtain ⟨rfl, rfl, rfl⟩ := follows_pure_iff.1 last
    exact ⟨by simp, nofun⟩

/-- What a call of `on_interrupt` that returns 0 leaves behind. -/
structure Returned (s : BeastieCaptureState) (evs : List CaptureEvent) (s' : BeastieCaptureState) :
    Prop where
  flushed : s'.bytesSinceLastFlush = evs.foldl flushStep s.bytesSinceLastFlush
  below : s'.bytesSinceLastFlush < pcapFlushIntervalBytes
  evened : ∀ q, handedBack q evs = received q evs

theorem onInterrupt_returned {qid : Nat} {s s' : BeastieCaptureState} {evs : List CaptureEvent}
    {rc : MemifErr} (h : Follows (onInterrupt qid s) evs (rc, s'))
    (small : s.bytesSinceLastFlush < pcapFlushIntervalBytes) (trusted : ∀ e ∈ evs, Trusted e) :
    rc ≠ .pollCancel ∧ (rc = .success → Returned s evs s') := by
  obtain ⟨burst, evs, rfl, taken⟩ := follows_ask_iff.1 h
  obtain ⟨few, other⟩ : burst.bufs.length ≤ maxMemifBufs ∧ burst.err ≠ .pollCancel :=
    trusted _ List.mem_cons_self
  by_cases failed : burst.err ≠ .success
  · rw [if_pos failed] at taken
    obtain ⟨r, evs, rfl, ended⟩ := follows_ask_iff.1 taken
    obtain ⟨rfl, rfl, rfl⟩ := follows_pure_iff.1 ended
    exact ⟨other, fun fine => absurd fine failed⟩
  · rw [if_neg failed] at taken
    obtain ⟨evs₁, early, s₁, evs₂, rfl, loop, behind⟩ := follows_seq_iff.1 taken
    have writing := (loop.of_only (uses_onInterruptLoop _ _)).1
    have room : s.bytesSinceLastFlush + burst.bufs.length * 2 ^ 32 < 2 ^ 64 := by
      unfold pcapFlushIntervalBytes at small
      unfold maxMemifBufs at few
      omega
    rcases loop_counts _ loop room with ⟨rfl, counted⟩ | rfl
    · obtain ⟨other, back⟩ := onInterruptEnd_counts few behind fun e he => trusted e (by simp [he])
      refine ⟨other, fun fine => ?_⟩
      obtain ⟨flushed, below, queues⟩ := back fine
      refine ⟨?_, below, fun q => ?_⟩
      · rw [flushed, counted, List.foldl_cons, List.foldl_append]
        rfl
      · obtain ⟨taken₁, back₁⟩ := counts_offQueue (fun e he => writing_offQueue (writing e he)) q
        obtain ⟨taken₂, back₂⟩ := queues q
        simp only [received_cons, handedBack_cons, received_append, handedBack_append, taken₁,
          back₁,
          taken₂, back₂]
        simp [eventReceived, eventHandedBack]
    · obtain ⟨rfl, rfl, rfl⟩ := follows_pure_iff.1 behind
      exact ⟨by simp, nofun⟩

/-! ## Every call of a run -/

/-- The accounts agree, at the loop test and wherever a callback starts. -/
structure Balanced (s : BeastieCaptureState) (_ : CaptureWorld) (tr : CaptureTrace) : Prop where
  flushed : s.bytesSinceLastFlush = bytesSinceFlush (events tr)
  below : s.bytesSinceLastFlush < pcapFlushIntervalBytes
  evened : ∀ q, handedBack q (events tr) = received q (events tr)

theorem Balanced.signal {s : BeastieCaptureState} {w w' : CaptureWorld} {tr : CaptureTrace}
    (h : Balanced s w tr) : Balanced s w' (tr ++ [.interrupt]) := by
  have same : events (tr ++ [.interrupt]) = events tr := by simp
  exact ⟨by rw [same, h.flushed], h.below, by rw [same]; exact h.evened⟩

theorem Balanced.uncounted {s t : BeastieCaptureState} {w w' : CaptureWorld} {tr : CaptureTrace}
    {c : CaptureCall} {r : CaptureReply c} (h : Balanced s w tr) (hc : Uncounted c) :
    Balanced s w' (tr ++ [.did ⟨(t, c), r⟩]) := by
  have grown : events (tr ++ [.did ⟨(t, c), r⟩]) = events tr ++ [⟨(t, c), r⟩] := by simp
  refine ⟨?_, h.below, fun q => ?_⟩
  · rw [grown, h.flushed, bytesSinceFlush, bytesSinceFlush, List.foldl_append, List.foldl_cons,
      List.foldl_nil, flushStep_uncounted hc]
  · have only : ∀ e ∈ [(⟨(t, c), r⟩ : CaptureEvent)], OffQueue e.call.2 := by
      intro e he
      rw [List.mem_singleton.1 he]
      exact uncounted_offQueue hc
    obtain ⟨taken, back⟩ := counts_offQueue only q
    rw [grown, handedBack_append, received_append, taken, back, h.evened]

/-- A callback that returns 0 keeps them. -/
theorem Balanced.returned {s s' : BeastieCaptureState} {w w' : CaptureWorld} {tr u : CaptureTrace}
    (h : Balanced s w tr) (k : Returned s (events u) s') : Balanced s' w' (tr ++ u) := by
  refine ⟨?_, k.below, fun q => ?_⟩
  · rw [events_append, bytesSinceFlush, List.foldl_append, k.flushed, h.flushed]
    rfl
  · rw [events_append, handedBack_append, received_append, h.evened, k.evened]

def BurstAt (c : BeastieCaptureState × CaptureCall) (w : CaptureWorld) (tr : CaptureTrace) : Prop :=
  ∀ qid count, c.2 = .memifRxBurst qid count → Balanced c.1 w tr

theorem safe_uncounted {α : Type} {m : CaptureM α} (reads : Reads Uncounted m)
    {s : BeastieCaptureState} {w : CaptureWorld} {tr : CaptureTrace} (now : Balanced s w tr) :
    Safe captureEnv OnlyPollsCancel BurstAt (fun x => Balanced x.2) (m s) w tr := by
  apply Safe.reading (P := Balanced) reads ?_ ?_ ?_ now
  · exact fun s c w tr _ h _ _ _ => h
  · exact fun s c w tr _ h _ => h.signal
  · exact fun s c w tr r w' hc h _ _ => h.uncounted hc

/-- Where no burst is taken nothing is asked. -/
theorem safe_no_burst {K : CaptureCall → Prop} {α : Type} {m : CaptureM α} (uses : Uses K m)
    (hK : ∀ qid count, ¬ K (.memifRxBurst qid count)) {s : BeastieCaptureState} {w : CaptureWorld}
    {tr : CaptureTrace} :
    Safe captureEnv OnlyPollsCancel BurstAt (fun _ _ _ => True) (m s) w tr := by
  apply Safe.through (P := fun _ _ => True) uses ?_ (fun _ _ _ _ _ _ _ => trivial)
    (fun _ _ _ _ _ _ _ _ _ _ => trivial) trivial
  rintro s c w tr hc _ qid count rfl
  exact absurd hc (hK qid count)

/-- An error other than that of a cancelled poll. -/
def IsFault (err : MemifErr) : Prop := err ≠ .success ∧ err ≠ .pollCancel

def BalancedUnless (err : MemifErr) (s : BeastieCaptureState) (w : CaptureWorld)
    (tr : CaptureTrace) :
    Prop :=
  IsFault err ∨ Balanced s w tr

theorem safe_onInterrupt_balanced (qid : Nat) {s : BeastieCaptureState} {w : CaptureWorld}
    {tr : CaptureTrace} (now : Balanced s w tr) :
    Safe captureEnv OnlyPollsCancel BurstAt (fun x w tr => IsFault x.1 ∨ x.1 = .success ∧
      Balanced x.2 w tr)
      (onInterrupt qid s) w tr := by
  have asked : Safe captureEnv OnlyPollsCancel BurstAt (fun _ _ _ => True)
      (onInterrupt qid s) w tr := by
    obtain ⟨rest, eq, after⟩ := onInterrupt_burst qid
    rw [eq]
    refine Safe.ask (c := .memifRxBurst qid maxMemifBufs) (Balanced s) now ?_ ?_ ?_
    · exact fun w tr h _ => h.signal
    · exact fun w tr h _ _ _ => h
    · exact fun w tr burst w' _ _ _ => safe_no_burst (after burst) fun _ _ => id
  refine (asked.and (safe_follows (onInterrupt qid s) w tr)).weaken (fun _ _ _ h => h.1) ?_
  rintro ⟨rc, s'⟩ _ _ ⟨_, u, rfl, call, answered⟩
  obtain ⟨other, back⟩ := onInterrupt_returned call now.below fun e he =>
    trusted_of_answered (answered e he)
  by_cases fine : rc = .success
  · exact .inr ⟨fine, now.returned (back fine)⟩
  · exact .inl ⟨fine, other⟩

theorem safe_pollCallbacks_balanced (callbacks : List MemifCallback) {s : BeastieCaptureState}
    {w : CaptureWorld} {tr : CaptureTrace} (now : Balanced s w tr) :
    Safe captureEnv OnlyPollsCancel BurstAt
      (fun x w tr => match x.1 with
        | some err => IsFault err
        | none => Balanced x.2 w tr) (pollCallbacks callbacks s) w tr := by
  induction callbacks generalizing s w tr with
  | nil => exact .done now
  | cons callback rest ih =>
    cases callback with
    | connect =>
      exact Safe.seq (safe_uncounted (reads_onConnect.mono fun _ => housekeeping_uncounted) now)
        fun _ _ _ _ h => ih h
    | disconnect =>
      exact Safe.seq (safe_uncounted (reads_onDisconnect.mono fun _ => housekeeping_uncounted) now)
        fun _ _ _ _ h => ih h
    | interrupt qid =>
      refine Safe.seq (safe_onInterrupt_balanced qid now) ?_
      rintro err s w tr (fault | ⟨rfl, h⟩)
      · rw [if_pos fault.1]
        exact .done fault
      · exact ih h

theorem safe_memifPollEvent_balanced {s : BeastieCaptureState} {w : CaptureWorld}
    {tr : CaptureTrace} (now : Balanced s w tr) :
    Safe captureEnv OnlyPollsCancel BurstAt (fun x => BalancedUnless x.1 x.2)
      (memifPollEvent s) w tr := by
  have begin : Reads Uncounted (call .memifPollEvent) := reads_call trivial
  have wait : Reads Uncounted (call .pollWait) := reads_call trivial
  refine Safe.seq (safe_uncounted begin now) fun _ s w tr h => ?_
  refine Safe.seq (safe_uncounted wait h) fun poll s w tr h => ?_
  refine Safe.seq (safe_pollCallbacks_balanced _ h) fun early s w tr h => ?_
  have leave {err : MemifErr} : Reads Uncounted (call (.pollReturn err)) := reads_call trivial
  cases early with
  | some err =>
    exact Safe.seq (safe_no_burst leave.uses fun _ _ => id) fun _ s w tr _ => .done (.inl h)
  | none => exact Safe.seq (safe_uncounted leave h) fun _ s w tr h => .done (.inr h)

section Runs
variable {config : BeastieCaptureConfig} {files : CString → FileContent}

theorem balanced_start (config : BeastieCaptureConfig) (files : CString → FileContent) :
    Balanced (beastieCaptureStateInit config) ⟨true, true, .initial files⟩ [] := by
  have interval : 0 < pcapFlushIntervalBytes := by decide
  exact ⟨rfl, interval, fun _ => rfl⟩

/-- The accounts agree at the loop test, and wherever a run takes a burst. -/
theorem capture_balanced {x : CaptureConfiguration}
    (run : CaptureRun OnlyPollsCancel config files x) :
    Meets BurstAt (fun x => Balanced x.2) (fun _ _ _ => True) x := by
  have quiet {α : Type} {m : CaptureM α} (reads : Reads Closing m) {s w tr} :
      Safe captureEnv OnlyPollsCancel BurstAt (fun _ _ _ => True) (m s) w tr :=
    safe_no_burst reads.uses fun _ _ => id
  have tested : Reads Uncounted keepRunning := reads_call trivial
  refine capture_meets (J := Balanced) (Q := fun _ _ _ _ => True) ?_ ?_ ?_ ?_ run
  · refine safe_captureStart (F := fun _ _ _ => True) ?_ ?_
    · have setUp : Reads Uncounted captureSetUp :=
        reads_captureSetUp_housekeeping.mono fun _ => housekeeping_uncounted
      exact safe_either Prod.snd (E := fun _ _ _ => True)
        (safe_uncounted setUp (balanced_start config files)) (fun _ _ _ _ h => h)
          fun _ _ _ _ _ => trivial
    · exact fun handles s w tr _ => quiet (reads_captureCleanup_closing handles)
  · refine safe_capturePass (R := Balanced) (E := fun _ _ _ => True) (T := BalancedUnless)
      (F := BalancedUnless) ?_ ?_ ?_ ?_ ?_ ?_
    · intro s w tr h
      exact safe_either id (E := fun _ _ _ => True) (safe_uncounted tested h) (fun _ _ _ _ h => h)
        fun _ _ _ _ _ => trivial
    · exact fun s w tr h => safe_memifPollEvent_balanced h
    · rintro err s w tr (fault | h)
      · exact safe_either id (E := fun _ _ _ => True) (safe_no_burst tested.uses fun _ _ => id)
          (fun _ _ _ _ _ => .inl fault) fun _ _ _ _ _ => trivial
      · exact safe_either id (E := fun _ _ _ => True) (safe_uncounted tested h)
          (fun _ _ _ _ h => .inr h) fun _ _ _ _ _ => trivial
    · exact fun err s w tr fine h => h.resolve_left fine
    · exact fun handles err s w tr _ _ => quiet (reads_captureAbort handles err)
    · exact fun handles s w tr _ => quiet (reads_captureFinish handles)
  · exact fun s w tr h _ => h.signal
  · exact fun _ _ _ _ _ _ => trivial

/-- **The accounts at every return of 0.** Where a run has come to the end of a
call of `on_interrupt` that returned 0, `bytes_since_last_flush` is what was
written since the last successful flush, and less than 1 MiB; and from every
queue as many buffers were taken as handed back, in this call and in all calls
so far. -/
theorem interrupt_accounts {x : CaptureConfiguration}
    (run : CaptureRun OnlyPollsCancel config files x) {t u : CaptureTrace}
    (split : x.trace = t ++ u) {qid : Nat} {s s' : BeastieCaptureState}
    (call : Follows (onInterrupt qid s) (events u) (.success, s')) :
    s'.bytesSinceLastFlush = bytesSinceFlush (events x.trace) ∧
      s'.bytesSinceLastFlush < 1024 * 1024 ∧
      ∀ q, handedBack q (events u) = received q (events u) ∧
        handedBack q (events x.trace) = received q (events x.trace) := by
  obtain ⟨burst, evs, first, _⟩ := follows_ask_iff.1 call
  obtain ⟨t', u', rfl, quiet, rest⟩ := events_eq_cons first
  have here : x.trace = (t ++ t') ++ .did ⟨(s, .memifRxBurst qid maxMemifBufs), burst⟩ :: u' := by
    rw [split, List.append_assoc]
  obtain ⟨z, next, _, run', control, eq, _⟩ := run.waited here (Nat.zero_le _)
  have balanced : Balanced s z.world (t ++ t') := by
    have meets := capture_balanced run'
    unfold Meets at meets
    rw [control, eq] at meets
    exact meets qid maxMemifBufs rfl
  have calls : events (t' ++ .did ⟨(s, .memifRxBurst qid maxMemifBufs), burst⟩ :: u') =
      events (.did ⟨(s, .memifRxBurst qid maxMemifBufs), burst⟩ :: u') := by
    rw [events_append, quiet, List.nil_append]
  rw [calls] at call ⊢
  have trusted : ∀ e ∈ events (.did ⟨(s, .memifRxBurst qid maxMemifBufs), burst⟩ :: u'),
      Trusted e := by
    intro e he
    refine trusted_of_answered (run.answered rfl ?_)
    rw [here, events_append]
    exact List.mem_append_right _ he
  have returned := (onInterrupt_returned call balanced.below trusted).2 rfl
  have after : Balanced s' x.world x.trace := by
    rw [here]
    exact balanced.returned returned
  exact ⟨after.flushed, after.below, fun q => ⟨returned.evened q, after.evened q⟩⟩

theorem onlyPollsCancel_eachPoll (bufs : List MemifBuffer) (w : CaptureWorld)
    (c : BeastieCaptureState × CaptureCall) (tr : CaptureTrace) :
    OnlyPollsCancel (some c) w tr (.did ⟨c, (captureAnswer (eachPoll bufs) w c).1⟩) := by
  obtain ⟨s, c⟩ := c
  cases c with
  | memifRxBurst => exact fun h => nomatch h
  | memifRefillQueue => exact fun h => nomatch h
  | _ => trivial

/-- One turn of the loop goes through its callback. -/
theorem drive_captureBody_callback (bufs : List MemifBuffer) (handles : CaptureHandles)
    (s : BeastieCaptureState) (w : CaptureWorld) (running : w.keepRunning = true)
    (tr : CaptureTrace) :
    ∃ t, (drive (captureAnswer (eachPoll bufs)) (onInterrupt 0 s) w (tr ++ t)).2.2 <+:
      (drive (captureAnswer (eachPoll bufs)) (captureBody (handles, s)) w tr).2.2 := by
  let answer := captureAnswer (eachPoll bufs)
  have polled (tr : CaptureTrace) : ∃ t, (drive answer (onInterrupt 0 s) w (tr ++ t)).2.2 <+:
      (drive answer (memifPollEvent s) w tr).2.2 := by
    refine ⟨[.did ⟨(s, .memifPollEvent), ()⟩, .did ⟨(s, .pollWait), (eachPoll bufs).poll⟩], ?_⟩
    unfold memifPollEvent
    rw [drive_call, drive_call, List.append_assoc]
    exact (drive_first answer _ _ w _).trans
      (drive_first answer (pollCallbacks [.interrupt 0] s) _ w _)
  obtain ⟨t, goes⟩ := polled (tr ++ [.did ⟨(s, .keepRunning), true⟩])
  refine ⟨.did ⟨(s, .keepRunning), true⟩ :: t, ?_⟩
  rw [← List.singleton_append, ← List.append_assoc]
  refine goes.trans (.trans ?_ (drive_first answer (capturePass handles s) _ w tr))
  unfold capturePass keepRunning
  rw [drive_call]
  simp only [captureAnswer, running]
  rw [if_pos trivial]
  exact drive_first answer (memifPollEvent s) _ w _

/-- The first callback of a run in which every poll brings one that finds `bufs`. -/
def firstInterrupt (bufs : List MemifBuffer) (config : BeastieCaptureConfig)
    (files : CString → FileContent) :
    (MemifErr × BeastieCaptureState) × CaptureWorld × CaptureTrace :=
  drive (captureAnswer (eachPoll bufs)) (onInterrupt 0 (beastieCaptureStateInit config))
    ⟨true, true, .initial files⟩ []

theorem reaches_first_return (bufs : List MemifBuffer) (config : BeastieCaptureConfig)
    (files : CString → FileContent) :
    ∃ x t, CaptureRun OnlyPollsCancel config files x ∧
      x.trace = t ++ (firstInterrupt bufs config files).2.2 ∧
      Follows (onInterrupt 0 (beastieCaptureStateInit config))
        (events (firstInterrupt bufs config files).2.2) (firstInterrupt bufs config files).1 := by
  have met := onlyPollsCancel_eachPoll bufs
  obtain ⟨tr, start, _⟩ := reaches_loop_test OnlyPollsCancel (eachPoll bufs) met config files
  have turn : Run captureEnv captureBody OnlyPollsCancel (beastieRunCapture config files) _ :=
    start.trans (run_drive (captureAnswer_serves _) met _ _ _)
  obtain ⟨t, v, split⟩ :=
    drive_captureBody_callback bufs ⟨true, true⟩ (beastieCaptureStateInit config)
    ⟨true, true, .initial files⟩ rfl tr
  rw [drive_append] at split
  obtain ⟨x, run, trace⟩ := turn.reached split.symm (Nat.zero_le _)
  obtain ⟨u, grown, call⟩ := follows_drive (captureAnswer (eachPoll bufs))
    (onInterrupt 0 (beastieCaptureStateInit config)) ⟨true, true, .initial files⟩ []
  rw [List.nil_append] at grown
  rw [← grown] at call
  exact ⟨x, tr ++ t, run, trace, call⟩

/-- Of two buffers of a byte each a limit of one byte lets one be written; both
are handed back. -/
theorem cut_burst_handed_back : ∃ x t u s s',
    CaptureRun OnlyPollsCancel (defaultCapture 1 (by decide)) (fun _ => .absent) x ∧
      x.trace = t ++ u ∧ Follows (onInterrupt 0 s) (events u) (.success, s') ∧
      written u = [oneByteBuffer 1 false] ∧ bytesSinceFlush (events x.trace) = 1 ∧
      handedBack 0 (events u) = 2 := by
  obtain ⟨x, t, run, split, call⟩ := reaches_first_return
    [oneByteBuffer 1 false, oneByteBuffer 2 false] (defaultCapture 1 (by decide)) fun _ => .absent
  obtain ⟨flushed, _, queues⟩ := interrupt_accounts run split call
  exact ⟨x, t, _, _, _, run, split, call, rfl, flushed.symm, (queues 0).1⟩

end Runs

end BeastieBoy
