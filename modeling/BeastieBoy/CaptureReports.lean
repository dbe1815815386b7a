import BeastieBoy.CaptureSession
import Mathlib.Order.Lattice

/-!
# What a capture prints

The progress lines and the summary against what had been written when they were
printed. The counters are 64 bits wide, and the bar multiplies one of them by its
width.
-/

namespace BeastieBoy

open CLib Interact Local

/-- How many signs of the bar are filled. -/
def shownFilled (max bytes : Nat) : Nat :=
  if 0 < max then min (bytes * progressBarWidth / max) progressBarWidth else 0

def shownBar (max bytes : Nat) : CString :=
  List.replicate (shownFilled max bytes) '#' ++
    List.replicate (progressBarWidth - shownFilled max bytes) '.'

/-- The progress line when `bufs` are written. -/
def shownProgress (max : Nat) (bufs : List MemifBuffer) : String × List PrintArg :=
  if 0 < max then
    ("\r[%s] %lu/%lu bytes (%.1f%%), packets=%lu",
      [.str (shownBar max (totalLen bufs)), .u64 (totalLen bufs), .u64 max,
        .percent (totalLen bufs) max, .u64 bufs.length])
  else
    ("\r[%s] %lu bytes, packets=%lu",
      [.str (shownBar max (totalLen bufs)), .u64 (totalLen bufs), .u64 bufs.length])

theorem shownFilled_le (max bytes : Nat) : shownFilled max bytes ≤ progressBarWidth := by
  unfold shownFilled
  split
  · exact Nat.min_le_right _ _
  · exact Nat.zero_le _

theorem map_range_lt {α : Type} (filled rest : Nat) (a b : α) :
    (List.range (filled + rest)).map (fun i => if i < filled then a else b) =
      List.replicate filled a ++ List.replicate rest b := by
  rw [List.range_add, List.map_append, List.map_map]
  congr 1
  · apply List.eq_replicate_iff.2
    refine ⟨by simp, fun c there => ?_⟩
    obtain ⟨i, inside, rfl⟩ := List.mem_map.1 there
    exact if_pos (List.mem_range.1 inside)
  · apply List.eq_replicate_iff.2
    refine ⟨by simp, fun c there => ?_⟩
    obtain ⟨i, _, rfl⟩ := List.mem_map.1 there
    exact if_neg (Nat.not_lt.2 (Nat.le_add_right _ _))

/-- The bar is that of the bytes captured while their product fits. -/
theorem progressBar_eq {s : BeastieCaptureState}
    (fits : s.bytesCaptured * progressBarWidth < 2 ^ 64) :
    progressBar s = shownBar s.maxBytesToCapture s.bytesCaptured := by
  have filled : progressFilled s = shownFilled s.maxBytesToCapture s.bytesCaptured := by
    rw [progressFilled, shownFilled, Nat.mod_eq_of_lt fits]
  have width : progressBarWidth = shownFilled s.maxBytesToCapture s.bytesCaptured +
      (progressBarWidth - shownFilled s.maxBytesToCapture s.bytesCaptured) :=
    (Nat.add_sub_cancel' (shownFilled_le _ _)).symm
  rw [progressBar, filled, shownBar]
  conv_lhs => rw [width]
  exact map_range_lt _ _ _ _

theorem count_shownBar (max bytes : Nat) :
    (shownBar max bytes).count '#' = shownFilled max bytes := by
  simp [shownBar, List.count_replicate]

/-- The bar is full from the limit on. -/
theorem shownFilled_full_iff {max bytes : Nat} (limited : 0 < max) :
    shownFilled max bytes = progressBarWidth ↔ max ≤ bytes := by
  have width : 0 < progressBarWidth := by decide
  rw [shownFilled, if_pos limited, min_eq_right_iff, Nat.le_div_iff_mul_le limited,
    Nat.mul_comm bytes]
  exact Nat.mul_le_mul_left_iff width

/-! ## Which lines the phases allow -/

section Phases
variable {config : BeastieCaptureConfig} {phase phase' : CapturePhase}

theorem printf_allowed {s : BeastieCaptureState} {format : String} {args : List PrintArg}
    {behind : Unit → CapturePhase}
    (allowed : captureNext config phase (s, .printf format args) = some behind) :
    (format, args) = progressLine s ∨ (format, args) = ("\n", []) := by
  cases phase with
  | taking h qid rx bufs =>
    cases bufs with
    | nil => exact .inl (Option.ite_none_right_eq_some.1 allowed).1
    | cons buf bufs => cases allowed
  | flushed h => exact (Option.ite_none_right_eq_some.1 allowed).1
  | _ => cases allowed

/-- The summary is told once, behind the loop. -/
theorem summary_allowed {s : BeastieCaptureState} {level : AppLogLevel} {args : List PrintArg}
    {behind : Unit → CapturePhase}
    (allowed : captureNext config phase (s, .beastieLog level summaryFormat args) = some behind) :
    args = summaryArgs s ∧ ∃ h, behind = fun _ => .leaving h := by
  cases phase with
  | flushed h =>
    simp only [captureNext, ne_eq, not_true_eq_false, ↓reduceIte] at allowed
    obtain ⟨told, leads⟩ := Option.ite_none_right_eq_some.1 allowed
    cases leads
    exact ⟨told, h, rfl⟩
  | _ =>
    simp only [captureNext, ne_eq, not_true_eq_false, ↓reduceIte] at allowed
    cases allowed

/-- Behind the summary. -/
def IsLate : CapturePhase → Prop
  | .leaving _ => True
  | .detached _ => True
  | .closed _ => True
  | _ => False

def isReport : CaptureEvent → Bool
  | ⟨(_, .printf ..), _⟩ => true
  | ⟨(_, .beastieLog _ format _), _⟩ => decide (format = summaryFormat)
  | _ => false

/-- There neither a packet is written nor a line reported. -/
theorem late_next {e : CaptureEvent} {behind : CaptureReply e.call.2 → CapturePhase}
    (allowed : captureNext config phase e.call = some behind) (late : IsLate phase) :
    IsLate (behind e.reply) ∧ isReport e = false ∧ actWritten (.did e) = [] := by
  obtain ⟨c, r⟩ := e
  simp only at allowed behind
  unfold captureNext at allowed
  split at allowed
  all_goals
    repeat' split at allowed
  all_goals first
    | cases allowed
      done
    | cases late
      done
    | cases allowed
      exact ⟨trivial, rfl, rfl⟩
    | cases allowed
      exact ⟨trivial, decide_eq_false ‹_›, rfl⟩

theorem late_passes {tr : List CaptureEvent}
    (passes : (captureProtocol config).Passes phase tr phase')
    (late : IsLate phase) : ∀ e ∈ tr, isReport e = false ∧ actWritten (.did e) = [] := by
  induction passes with
  | nil => simp
  | cons allowed _ ih =>
    obtain ⟨later, here⟩ := late_next allowed late
    exact List.forall_mem_cons.2 ⟨here, ih later⟩

end Phases

/-! ## The reports of a run -/

theorem written_eq_nil {u : CaptureTrace} (unwritten : ∀ e ∈ events u, actWritten (.did e) = []) :
    written u = [] := by
  apply List.flatMap_eq_nil_iff.2
  intro a there
  cases a with
  | did e => exact unwritten e (mem_events_iff.2 there)
  | interrupt => rfl

theorem totalLen_written_le (t u : CaptureTrace) :
    totalLen (written t) ≤ totalLen (written (t ++ u)) ∧
    (written t).length ≤ (written (t ++ u)).length := by
  have within : (written t).Sublist (written (t ++ u)) := by
    rw [written_append]
    exact List.sublist_append_left _ _
  exact ⟨totalLen_le_of_sublist within, within.length_le⟩

section Runs
variable {config : BeastieCaptureConfig} {files : CString → FileContent} {ok : CaptureGuard}

/-- The counters of a call, and the phase it was made in. -/
theorem reported {x : CaptureConfiguration} (run : CaptureRun ok config files x)
    {t u : CaptureTrace} {s : BeastieCaptureState} {c : CaptureCall} {r : CaptureReply c}
    (split : x.trace = t ++ .did ⟨(s, c), r⟩ :: u) :
    (∃ w, Observed config files s w t) ∧
    ∃ phase behind, captureNext config phase (s, c) = some behind ∧
      ∃ phase', (captureProtocol config).Passes (behind r) (events u) phase' := by
  obtain ⟨z, next, w', run', control, eq, _⟩ := run.waited split (Nat.zero_le _)
  have observed := capture_observed (run'.mono fun _ _ _ _ _ => trivial)
  have vars : captureVars z = s := by simp [captureVars, control]
  rw [vars, eq] at observed
  refine ⟨⟨_, observed⟩, ?_⟩
  obtain ⟨phase', passes, _⟩ := capture_speaks run
  rw [split, events_append, events_did] at passes
  obtain ⟨phase, _, rest⟩ := passes.split
  cases rest with
  | cons allowed later => exact ⟨phase, _, allowed, phase', later⟩

theorem progressLine_eq {s : BeastieCaptureState} {w : CaptureWorld} {t : CaptureTrace}
    (observed : Observed config files s w t)
    (small : totalLen (written t) * progressBarWidth < 2 ^ 64) (few : (written t).length < 2 ^ 64) :
    progressLine s = shownProgress config.maxCaptureBytes (written t) := by
  have bytes : s.bytesCaptured = totalLen (written t) := by
    rw [observed.bytes, Nat.mod_eq_of_lt]
    simp only [progressBarWidth] at small
    omega
  have packets : s.packetsCaptured = (written t).length := by
    rw [observed.packets, Nat.mod_eq_of_lt few]
  rw [← bytes] at small
  rw [progressLine, shownProgress, progressBar_eq small, bytes, packets, observed.max]

/-- **What a capture prints is what it has written.** As long as the 64 bits of the
counters suffice, every progress line tells the bytes and packets written up to it,
no more than the limit, with a bar that is full exactly at the limit; and the
summary comes last and tells all that the run has written. -/
theorem capture_reports {x : CaptureConfiguration} (run : CaptureRun ok config files x)
    (small : totalLen (written x.trace) * progressBarWidth < 2 ^ 64)
    (few : (written x.trace).length < 2 ^ 64) :
    (∀ t u s format args r, x.trace = t ++ .did ⟨(s, .printf format args), r⟩ :: u →
      (format, args) = ("\n", []) ∨
        (format, args) = shownProgress config.maxCaptureBytes (written t)) ∧
    (∀ t, t <+: x.trace → 0 < config.maxCaptureBytes →
      totalLen (written t) ≤ config.maxCaptureBytes ∧
      ((shownBar config.maxCaptureBytes (totalLen (written t))).count '#' = progressBarWidth ↔
        totalLen (written t) = config.maxCaptureBytes)) ∧
    ∀ t u s level args r, x.trace = t ++ .did ⟨(s, .beastieLog level summaryFormat args), r⟩ :: u →
      args = [.u64 (totalLen (written x.trace)), .u64 (written x.trace).length] ∧
        ∀ e ∈ events u, isReport e = false := by
  have fits {t u : CaptureTrace} (split : x.trace = t ++ u) :
      totalLen (written t) * progressBarWidth < 2 ^ 64 ∧ (written t).length < 2 ^ 64 := by
    obtain ⟨bytes, packets⟩ := totalLen_written_le t u
    rw [← split] at bytes packets
    exact ⟨(Nat.mul_le_mul_right _ bytes).trans_lt small, packets.trans_lt few⟩
  refine ⟨fun t u s format args r split => ?_, fun t here limited => ?_,
    fun t u s level args r split => ?_⟩
  · obtain ⟨⟨w, observed⟩, phase, behind, allowed, _⟩ := reported run split
    rcases printf_allowed allowed with shown | newline
    · obtain ⟨bytes, packets⟩ := fits split
      exact .inr (shown.trans (progressLine_eq observed bytes packets))
    · exact .inl newline
  · obtain ⟨u, split⟩ := here
    obtain ⟨z, run', trace⟩ := run.reached split.symm (Nat.zero_le _)
    have observed := capture_observed (run'.mono fun _ _ _ _ _ => trivial)
    rw [trace] at observed
    have within : totalLen (written t) < 2 ^ 64 := by
      have bytes := (fits split.symm).1
      simp only [progressBarWidth] at bytes
      omega
    have limit := observed.limit within limited
    rw [count_shownBar, shownFilled_full_iff limited]
    exact ⟨limit, fun full => Nat.le_antisymm limit full, fun reached => reached.ge⟩
  · obtain ⟨⟨w, observed⟩, phase, behind, allowed, phase', later⟩ := reported run split
    obtain ⟨told, h, rfl⟩ := summary_allowed allowed
    have after := late_passes later trivial
    have nothing : written u = [] := written_eq_nil fun e there => (after e there).2
    have all : written x.trace = written t := by
      rw [split, written_append, ← List.singleton_append, written_append, nothing]
      simp [written, actWritten]
    obtain ⟨bytes, packets⟩ := fits split
    refine ⟨?_, fun e there => (after e there).1⟩
    rw [told, summaryArgs, all, observed.bytes, observed.packets, Nat.mod_eq_of_lt packets,
      Nat.mod_eq_of_lt]
    simp only [progressBarWidth] at bytes
    omega

/-- Two of three packets, and the bar that was full for neither. -/
theorem reports_of_two : ∃ x, CaptureRun Guard.free (defaultCapture 6 (by decide))
    (fun _ => .absent) x ∧
    written x.trace = threeBuffers.take 2 ∧
    (∀ t u s format args r, x.trace = t ++ .did ⟨(s, .printf format args), r⟩ :: u →
      (format, args) = ("\n", []) ∨ (format, args) = shownProgress 6 (written t)) ∧
    ∀ t u s level args r, x.trace = t ++ .did ⟨(s, .beastieLog level summaryFormat args), r⟩ :: u →
      args = [.u64 5, .u64 2] := by
  obtain ⟨x, _, run, _, _, taken⟩ := limited_return Guard.free fun _ _ _ => trivial
  have small : totalLen (written x.trace) * progressBarWidth < 2 ^ 64 := by
    rw [taken]
    decide
  have few : (written x.trace).length < 2 ^ 64 := by
    rw [taken]
    decide
  obtain ⟨progress, _, summary⟩ := capture_reports run small few
  rw [taken] at summary
  exact ⟨x, run, taken, progress,
    fun t u s level args r split => (summary t u s level args r split).1⟩

end Runs

end BeastieBoy
