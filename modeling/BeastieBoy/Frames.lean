import BeastieBoy.CaptureFile

/-!
# Frames longer than one buffer

libmemif hands a long frame over as a chain of buffers, all but the last with
`MEMIF_BUFFER_FLAG_NEXT`. `on_interrupt` does not look at the flag.
-/

namespace BeastieBoy

open CLib Interact Local

/-- A frame as memif delivers it. -/
structure Frame where
  bufs : List MemifBuffer
  chained : ∃ front last, bufs = front ++ [last] ∧ (∀ buf ∈ front, buf.next = true) ∧
    last.next = false

def Frame.bytes (frame : Frame) : List UInt8 := frame.bufs.flatMap MemifBuffer.data

theorem Frame.length_pos (frame : Frame) : 0 < frame.bufs.length := by
  obtain ⟨front, last, eq, _⟩ := frame.chained
  simp [eq]

theorem length_flatMap_le (frames : List Frame) :
    frames.length ≤ (frames.flatMap Frame.bufs).length := by
  induction frames with
  | nil => exact Nat.le_refl _
  | cons frame frames ih =>
    have := frame.length_pos
    simp only [List.flatMap_cons, List.length_append, List.length_cons]
    omega

theorem single_of_length_eq {frames : List Frame}
    (h : (frames.flatMap Frame.bufs).length = frames.length) :
    ∀ frame ∈ frames, frame.bufs.length = 1 := by
  induction frames with
  | nil => simp
  | cons frame frames ih =>
    have := frame.length_pos
    have := length_flatMap_le frames
    simp only [List.flatMap_cons, List.length_append, List.length_cons] at h
    intro f hf
    rcases List.mem_cons.1 hf with rfl | hf
    · omega
    · exact ih (by omega) f hf

theorem data_of_single {frames : List Frame} (h : ∀ frame ∈ frames, frame.bufs.length = 1) :
    (frames.flatMap Frame.bufs).map MemifBuffer.data = frames.map Frame.bytes ∧
      (frames.flatMap Frame.bufs).length = frames.length := by
  induction frames with
  | nil => exact ⟨rfl, rfl⟩
  | cons frame frames ih =>
    obtain ⟨data, length⟩ := ih fun f hf => h f (List.mem_cons_of_mem _ hf)
    obtain ⟨buf, single⟩ := List.length_eq_one_iff.1 (h frame List.mem_cons_self)
    simp only [List.flatMap_cons, List.map_append, List.map_cons, List.length_append, data, length,
      single, Frame.bytes]
    simp [Nat.add_comm]

theorem Recorded.data {records : List PcapRecord} {bufs : List MemifBuffer}
    (h : Recorded records bufs) : records.map PcapRecord.data = bufs.map MemifBuffer.data := by
  induction h with
  | nil => rfl
  | cons holds _ ih => rw [List.map_cons, List.map_cons, holds.1, ih]

/-- No callback is under way: the loop test is next, or the run is over. -/
def AtRest (x : CaptureConfiguration) : Prop :=
  match x.control with
  | .call c _ => c.2 = .keepRunning
  | .done _ => True

theorem capture_whole {config : BeastieCaptureConfig} {files : CString → FileContent}
    {x : CaptureConfiguration} (run : CaptureRun Guard.free config files x) (rest : AtRest x)
    (unlimited : config.maxCaptureBytes = 0) (fine : ¬ Had isWriterFailure x.trace) :
    delivered x.trace = written x.trace := by
  have told : Told config files (captureVars x) x.world x.trace := by
    apply meets_vars (J := Settled config files) (Q := fun _ => Told config files)
      (P := fun s => Told config files s x.world x.trace) (capture_stream run)
    · intro s c next control h
      unfold AtRest at rest
      rw [control] at rest
      exact h.2 rest
    · exact fun s h => h.toTold
    · exact fun rc s h => h
  apply told.whole
  intro stop
  rcases told.stops stop with limited | failed
  · omega
  · exact fine failed

/-- **One record a frame**, with no limit and no failures, exactly where every
frame is a single buffer, below 2^64 of them. -/
theorem one_record_per_frame_iff {config : BeastieCaptureConfig} {files : CString → FileContent}
    {x : CaptureConfiguration} (run : CaptureRun Guard.free config files x) (rest : AtRest x)
    (unlimited : config.maxCaptureBytes = 0) (fine : ¬ Had isWriterFailure x.trace)
    (frames : List Frame) (arrived : delivered x.trace = frames.flatMap Frame.bufs) :
    x.world.writer.lib.dumped.map PcapRecord.data = frames.map Frame.bytes ∧
        (captureVars x).packetsCaptured = frames.length ↔
      (∀ frame ∈ frames, frame.bufs.length = 1) ∧ frames.length < 2 ^ 64 := by
  have observed := capture_observed run
  have all := capture_whole run rest unlimited fine
  have data := observed.dumped.data
  have packets := observed.packets
  rw [← all, arrived] at data packets
  rw [data, packets]
  constructor
  · rintro ⟨bytes, count⟩
    have length : (frames.flatMap Frame.bufs).length = frames.length := by
      simpa using congrArg List.length bytes
    refine ⟨single_of_length_eq length, ?_⟩
    rw [← count]
    exact Nat.mod_lt _ (by decide)
  · rintro ⟨single, few⟩
    obtain ⟨bytes, length⟩ := data_of_single single
    exact ⟨bytes, by rw [length, Nat.mod_eq_of_lt few]⟩

/-- A frame of two buffers. -/
def longFrame : Frame :=
  ⟨[oneByteBuffer 1 true, oneByteBuffer 2 false], [oneByteBuffer 1 true], oneByteBuffer 2 false,
    rfl, fun _ h => List.mem_singleton.1 h ▸ rfl, rfl⟩

def shortFrame : Frame :=
  ⟨[oneByteBuffer 1 false], [], oneByteBuffer 1 false,
    rfl, fun _ h => absurd h List.not_mem_nil, rfl⟩

/-- One frame in one burst, and the loop test after it. -/
theorem frame_captured (frame : Frame) (fits : frame.bufs.length ≤ maxMemifBufs) :
    ∃ x, CaptureRun Guard.free (defaultCapture 0 (by decide)) (fun _ => .absent) x ∧ AtRest x ∧
      ¬ Had isWriterFailure x.trace ∧ delivered x.trace = [frame].flatMap Frame.bufs := by
  obtain ⟨s, w, tr, run, _, _, _, fine, arrived, _⟩ :=
    undisturbed_turns (eachPoll frame.bufs) (0, 0) 0 rfl rfl fits Guard.free (fun _ _ _ => trivial)
      (defaultCapture 0 (by decide)) rfl (fun _ => .absent) 1
  refine ⟨_, run, rfl, ?_, arrived⟩
  rintro ⟨a, ha, failed⟩
  exact fine ⟨a, ha, by simp [isFailure, failed]⟩

/-- A frame of two buffers becomes two records. -/
theorem long_frame_splits : ∃ (x : CaptureConfiguration) (frames : List Frame),
    CaptureRun Guard.free (defaultCapture 0 (by decide))
    (fun _ => .absent) x ∧ AtRest x ∧ ¬ Had isWriterFailure x.trace ∧
    delivered x.trace = frames.flatMap Frame.bufs ∧
    ¬ (x.world.writer.lib.dumped.map PcapRecord.data = frames.map Frame.bytes) ∧
    (captureVars x).packetsCaptured ≠ frames.length := by
  obtain ⟨x, run, rest, fine, arrived⟩ := frame_captured longFrame (by decide)
  have observed := capture_observed run
  have all := capture_whole run rest rfl fine
  have data := observed.dumped.data
  have packets := observed.packets
  rw [← all, arrived] at data packets
  refine ⟨x, [longFrame], run, rest, fine, arrived, ?_, ?_⟩
  · rw [data]
    decide
  · rw [packets]
    decide

/-- A frame of one buffer becomes its record. -/
theorem short_frame_recorded : ∃ x, CaptureRun Guard.free (defaultCapture 0 (by decide))
    (fun _ => .absent) x ∧ x.world.writer.lib.dumped.map PcapRecord.data = [[1]] ∧
    (captureVars x).packetsCaptured = 1 := by
  obtain ⟨x, run, rest, fine, arrived⟩ := frame_captured shortFrame (by decide)
  have recorded := (one_record_per_frame_iff run rest rfl fine [shortFrame] arrived).2
    ⟨by simp [shortFrame], by decide⟩
  exact ⟨x, run, recorded⟩

end BeastieBoy
