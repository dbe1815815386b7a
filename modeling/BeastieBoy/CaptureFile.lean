import BeastieBoy.CaptureStream

/-!
# Counters, limit and file of a capture

What holds in every state of every run, and what a finished run leaves in its
output file.
-/

namespace BeastieBoy

open CLib Interact Local

section Runs
variable {config : BeastieCaptureConfig} {files : CString → FileContent}

theorem capture_observed {x : CaptureConfiguration} (run : CaptureRun Guard.free config files x) :
    Observed config files (captureVars x) x.world x.trace := by
  apply meets_vars (J := Settled config files) (Q := fun _ => Told config files)
    (P := fun s => Observed config files s x.world x.trace) (capture_stream run)
  · exact fun s c next _ h => h.1
  · exact fun s h => h.toObserved
  · exact fun rc s h => h.toObserved

theorem capture_heard {ok : CaptureGuard} {x : CaptureConfiguration}
    (run : CaptureRun ok config files x) : Heard x.world x.trace := by
  refine run.preserves (P := fun x => Heard x.world x.trace) ?_ (heard_start files)
  intro a b step h
  cases step with
  | reply served => exact h.serve served
  | interrupt => exact heard_signal _ _
  | turn => exact h

/-- **Prefix, counters, limit and stop.** With one callback a poll and less than
2^64 bytes delivered, the buffers written are a prefix of the stream;
`packets_captured` is their number modulo 2^64 and `bytes_captured` their sum; a
limit is never passed, and stops the run by itself only where it is reached or
the next buffer would pass it; a flag that is 0 stays 0, and at most one more
burst is taken. -/
theorem capture_written {x : CaptureConfiguration} (run : CaptureRun OncePerPoll config files x)
    (small : totalLen (delivered x.trace) < 2 ^ 64) :
    written x.trace <+: delivered x.trace ∧
      (captureVars x).packetsCaptured = (written x.trace).length % 2 ^ 64 ∧
      (captureVars x).bytesCaptured = totalLen (written x.trace) ∧
      (0 < config.maxCaptureBytes → (captureVars x).bytesCaptured ≤ config.maxCaptureBytes) ∧
      (x.world.keepRunning = false → Had isSignal x.trace ∨ Had isStop x.trace) ∧
      (Had isStop x.trace → Had isWriterFailure x.trace ∨ 0 < config.maxCaptureBytes ∧
        ((captureVars x).bytesCaptured = config.maxCaptureBytes ∨
          ∃ buf rest, delivered x.trace = written x.trace ++ buf :: rest ∧
            config.maxCaptureBytes < (captureVars x).bytesCaptured + buf.len)) ∧
      ∀ y, x.world.keepRunning = false → Run captureEnv captureBody OncePerPoll x y →
        y.world.keepRunning = false ∧
          ∃ more, y.trace = x.trace ++ more ∧ more.countP isRxBurst ≤ 1 := by
  have observed := capture_observed (run.mono fun _ _ _ _ _ => trivial)
  have heard := capture_heard run
  obtain ⟨pre, reason⟩ := observed.order (few_bursts run).orderly
  have few : totalLen (written x.trace) < 2 ^ 64 :=
    (totalLen_le_of_sublist observed.subseq).trans_lt small
  have bytes : (captureVars x).bytesCaptured = totalLen (written x.trace) := by
    rw [observed.bytes, Nat.mod_eq_of_lt few]
  refine ⟨pre, observed.packets, bytes, ?_, ?_, ?_, ?_⟩
  · rw [bytes]
    exact observed.limit few
  · intro off
    obtain ⟨a, ha, cleared⟩ := heard.why off
    simp only [isOff, Bool.or_eq_true] at cleared
    exact cleared.imp (⟨a, ha, ·⟩) (⟨a, ha, ·⟩)
  · intro stop
    rw [bytes]
    rcases reason stop with failed | ⟨limited, why⟩
    · exact .inl failed
    · exact .inr ⟨limited, why small⟩
  · intro y off more
    refine ⟨keepRunning_stays_off more off, ?_⟩
    obtain ⟨tail, eq⟩ := more.trace_prefix
    have few := (few_bursts (run.trans more)).few
    rw [← eq] at few
    exact ⟨tail, eq.symm, few.countP_le (heard.why off)⟩

/-- An empty packet. -/
def emptyBuffer : MemifBuffer := ⟨[], false, by decide⟩

theorem oncePerPoll_eachPoll (bufs : List MemifBuffer) (w : CaptureWorld)
    (c : BeastieCaptureState × CaptureCall) (tr : CaptureTrace) :
    OncePerPoll (some c) w tr (.did ⟨c, (captureAnswer (eachPoll bufs) w c).1⟩) := by
  obtain ⟨s, c⟩ := c
  cases c with
  | pollWait => exact Nat.le_refl 1
  | _ => trivial

theorem flatten_empty (n m : Nat) :
    totalLen (List.replicate n (List.replicate m emptyBuffer)).flatten = 0 ∧
      (List.replicate n (List.replicate m emptyBuffer)).flatten.length = n * m := by
  simp [totalLen, MemifBuffer.len, emptyBuffer]

/-- Any number of empty packets can be captured without a signal. -/
theorem empty_packets (m n : Nat) (fits : m ≤ maxMemifBufs) :
    ∃ x, CaptureRun OncePerPoll (defaultCapture 0 (by decide)) (fun _ => .absent) x ∧
      totalLen (delivered x.trace) = 0 ∧ (written x.trace).length = n * m := by
  obtain ⟨s, w, tr, run, _, _, _, _, arrived, taken⟩ :=
    undisturbed_turns (eachPoll (List.replicate m emptyBuffer)) (0, 0) 0 rfl rfl
      (by simpa [eachPoll] using fits) OncePerPoll (oncePerPoll_eachPoll _)
      (defaultCapture 0 (by decide)) rfl (fun _ => .absent) n
  refine ⟨_, run, ?_, ?_⟩
  · exact arrived ▸ (flatten_empty n m).1
  · exact taken ▸ (flatten_empty n m).2

/-- Two to the sixty-fourth empty packets, in bursts of 256, count as none. -/
theorem packets_captured_wraps : ∃ x, CaptureRun OncePerPoll (defaultCapture 0 (by decide))
    (fun _ => .absent) x ∧ totalLen (delivered x.trace) < 2 ^ 64 ∧
    (captureVars x).packetsCaptured ≠ (written x.trace).length := by
  obtain ⟨x, run, bytes, count⟩ := empty_packets 256 (2 ^ 56) (by decide)
  have packets := (capture_observed (run.mono fun _ _ _ _ _ => trivial)).packets
  refine ⟨x, run, by omega, ?_⟩
  rw [packets, count]
  decide

/-- Two of three packets, since the third would pass the limit. -/
theorem prefix_of_three : ∃ x, CaptureRun OncePerPoll (defaultCapture 6 (by decide))
    (fun _ => .absent) x ∧ delivered x.trace = threeBuffers ∧
      written x.trace = threeBuffers.take 2 ∧
    written x.trace <+: delivered x.trace ∧
    (captureVars x).packetsCaptured = 2 ∧ (captureVars x).bytesCaptured = 5 := by
  obtain ⟨x, s, run, _, arrived, taken⟩ := limited_return OncePerPoll (oncePerPoll_eachPoll _)
  have small : totalLen (delivered x.trace) < 2 ^ 64 := by
    rw [arrived]
    decide
  obtain ⟨pre, packets, bytes, _⟩ := capture_written run small
  rw [taken] at packets bytes
  exact ⟨x, run, arrived, taken, pre, packets, bytes⟩

/-- **The output file of a finished run** in which no write failed: the buffers
written, each as one record, in the order they were delivered; and the file it
was before if nothing was written, since only a write opens it. -/
theorem capture_file {x : CaptureConfiguration} {rc : Int} {s : BeastieCaptureState}
    (run : CaptureRun Guard.free config files x) (returned : x.control = .done (.exit (rc, s)))
    (fine : ¬ Had isWriteFailure x.trace) :
    (written x.trace).Sublist (delivered x.trace) ∧
      (written x.trace ≠ [] → ∃ records,
        x.world.writer.lib.files (captureFilename config) = .pcap records ∧
          Recorded records (written x.trace) ∧ s.packetsCaptured = records.length % 2 ^ 64) ∧
      (written x.trace = [] →
        x.world.writer.lib.files (captureFilename config) = files (captureFilename config) ∧
          s.packetsCaptured = 0) := by
  have observed := capture_observed run
  have vars : captureVars x = s := by simp [captureVars, returned]
  rw [vars] at observed
  refine ⟨observed.subseq, ?_, ?_⟩
  · intro some
    obtain ⟨records, filed, recorded⟩ := observed.filed some
    refine ⟨records, filed, recorded, ?_⟩
    rw [observed.packets, recorded.length_eq]
  · intro none
    refine ⟨observed.unfiled none fine, ?_⟩
    rw [observed.packets, none]
    rfl

/-- A finished run that nothing disturbed, with `n` bursts of `m` empty packets. -/
theorem empty_packets_return (m n : Nat) (fits : m ≤ maxMemifBufs) (files : CString → FileContent) :
    ∃ x s, CaptureRun Guard.free (defaultCapture 0 (by decide)) files x ∧
      x.control = .done (.exit (0, s)) ∧ ¬ Had isWriteFailure x.trace ∧
      (written x.trace).length = n * m := by
  obtain ⟨s, w, tr, run, fine, _, taken⟩ :=
    undisturbed_return (eachPoll (List.replicate m emptyBuffer)) (0, 0) 0 rfl rfl
      (by simpa [eachPoll] using fits) Guard.free (fun _ _ _ => trivial) (fun _ _ _ _ => trivial)
      (defaultCapture 0 (by decide)) rfl files n
  refine ⟨_, s, run, rfl, ?_, taken ▸ (flatten_empty n m).2⟩
  rintro ⟨a, ha, failed⟩
  exact fine ⟨a, ha, by simp [isFailure, isWriterFailure, failed]⟩

/-- A run that captures nothing leaves the file what it was; and a file can hold
more records than `packets_captured` counts. -/
theorem file_untouched_and_count_wraps :
    (∃ x s, CaptureRun Guard.free (defaultCapture 0 (by decide)) (fun _ => .other [1, 2, 3]) x ∧
      x.control = .done (.exit (0, s)) ∧
      ¬ ∃ records, x.world.writer.lib.files "capture.pcap".toList = .pcap records) ∧
    ∃ x s records, CaptureRun Guard.free (defaultCapture 0 (by decide)) (fun _ => .absent) x ∧
      x.control = .done (.exit (0, s)) ∧
      x.world.writer.lib.files "capture.pcap".toList = .pcap records ∧
      s.packetsCaptured ≠ records.length := by
  constructor
  · obtain ⟨x, s, run, returned, fine, count⟩ :=
      empty_packets_return 0 0 (by decide) fun _ => .other [1, 2, 3]
    refine ⟨x, s, run, returned, ?_⟩
    rintro ⟨records, filed⟩
    have none : written x.trace = [] := by simpa using count
    have kept := (capture_observed run).unfiled none fine
    rw [show captureFilename (defaultCapture 0 (by decide)) = "capture.pcap".toList from rfl,
      filed] at kept
    cases kept
  · obtain ⟨x, s, run, returned, fine, count⟩ :=
      empty_packets_return 256 (2 ^ 56) (by decide) fun _ => .absent
    have observed := capture_observed run
    have vars : captureVars x = s := by simp [captureVars, returned]
    have some : written x.trace ≠ [] := by
      rintro none
      rw [none] at count
      exact absurd count (by decide)
    obtain ⟨records, filed, recorded⟩ := observed.filed some
    refine ⟨x, s, records, run, returned, filed, ?_⟩
    rw [← vars, observed.packets, recorded.length_eq, count]
    decide

/-- Three packets: three records. -/
theorem file_of_three : ∃ x s records, CaptureRun Guard.free (defaultCapture 0 (by decide))
    (fun _ => .other [1, 2, 3]) x ∧ x.control = .done (.exit (0, s)) ∧
    x.world.writer.lib.files "capture.pcap".toList = .pcap records ∧
    records.length = 3 ∧ s.packetsCaptured = 3 := by
  obtain ⟨x, s, run, returned, fine, count⟩ :=
    empty_packets_return 1 3 (by decide) fun _ => .other [1, 2, 3]
  have some : written x.trace ≠ [] := by
    rintro none
    rw [none] at count
    exact absurd count (by decide)
  obtain ⟨records, filed, recorded, packets⟩ := (capture_file run returned fine).2.1 some
  have length : records.length = 3 := by rw [recorded.length_eq, count]
  exact ⟨x, s, records, run, returned, filed, length, by simp [packets, length]⟩

end Runs

end BeastieBoy
