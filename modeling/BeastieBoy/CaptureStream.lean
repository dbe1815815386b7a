import BeastieBoy.CaptureStop

/-!
# What a capture writes

The buffers delivered, in order, are a stream; the capture writes from it. This
keeps the counters, the limit, the records and the file in step with what the
trace says was written, through every state of every run.
-/

namespace BeastieBoy

open CLib Interact Local

/-- No burst was taken after a `stop`. -/
abbrev Orderly (tr : CaptureTrace) : Prop := NoneAfter isStop isRxBurst tr

/-- A record that holds one buffer. -/
def RecordOf (record : PcapRecord) (buf : MemifBuffer) : Prop :=
  record.data = buf.data ∧ record.caplen = buf.len ∧ record.len = buf.len

abbrev Recorded (records : List PcapRecord) (bufs : List MemifBuffer) : Prop :=
  List.Forall₂ RecordOf records bufs

def captureFilename (config : BeastieCaptureConfig) : CString :=
  (beastieCaptureStateInit config).pcapFilename

theorem recordOf_packetRecord (ts : Nat × Nat) (buf : MemifBuffer) :
    RecordOf (packetRecord ts buf.data) buf :=
  ⟨rfl, Nat.mod_eq_of_lt buf.len_lt, Nat.mod_eq_of_lt buf.len_lt⟩

theorem Recorded.concat {records : List PcapRecord} {bufs : List MemifBuffer} {record : PcapRecord}
    {buf : MemifBuffer} (h : Recorded records bufs) (last : RecordOf record buf) :
    Recorded (records ++ [record]) (bufs ++ [buf]) :=
  List.rel_append h (.cons last .nil)

/-! ## The writer and what was written -/

/-- The writer's state when `bufs` are written: idle with none, open with some. -/
def Held (filename : CString) (w : PcapWriter) (bufs : List MemifBuffer) : Prop :=
  bufs = [] ∧ w.Idle ∨
    bufs ≠ [] ∧ ∃ records, w.OpenOn filename records ∧ Recorded records bufs

theorem Held.same {filename : CString} {w w' : PcapWriter} {bufs : List MemifBuffer}
    (h : Held filename w bufs) (same : w.Same w') : Held filename w' bufs := by
  rcases h with ⟨none, idle⟩ | ⟨some, records, opened, recorded⟩
  · exact .inl ⟨none, same.idle idle⟩
  · exact .inr ⟨some, records, same.openOn opened, recorded⟩

/-- A write succeeds and adds its one record, or was the first and fails. -/
theorem Held.write {filename : CString} {w : PcapWriter} {bufs : List MemifBuffer}
    (h : Held filename w bufs) (met : WriteConditions) (buf : MemifBuffer) :
    let r := writePcapPacket met filename buf.data w
    r.1 = 0 ∧ Held filename r.2 (bufs ++ [buf]) ∧
        (∃ record, RecordOf record buf ∧ r.2.lib.dumped = w.lib.dumped ++ [record]) ∨
      r.1 = -1 ∧ Held filename r.2 bufs ∧ r.2.lib.dumped = w.lib.dumped := by
  have holds := recordOf_packetRecord met.timeOfDay buf
  rcases h with ⟨rfl, idle⟩ | ⟨some, records, opened, recorded⟩
  · rcases write_idle idle met filename buf.data with ⟨ok, opened, dumped⟩ | ⟨failed, idle, same⟩
    · exact .inl ⟨ok, .inr ⟨by simp, _, opened, .cons holds .nil⟩, _, holds, dumped⟩
    · exact .inr ⟨failed, .inl ⟨rfl, idle⟩, same⟩
  · obtain ⟨ok, opened, dumped⟩ := write_open opened met filename buf.data
    exact .inl ⟨ok, .inr ⟨by simp, _, opened, recorded.concat holds⟩, _, holds, dumped⟩

/-! ## Entries that change nothing here -/

/-- Neither the stream nor what was written has moved. -/
structure Unmoved (tr tr' : CaptureTrace) : Prop where
  delivered : delivered tr' = delivered tr
  written : written tr' = written tr
  orderly : Orderly tr' ↔ Orderly tr
  stop : Had isStop tr' ↔ Had isStop tr
  write : Had isWriteFailure tr' ↔ Had isWriteFailure tr
  failed : Had isWriterFailure tr → Had isWriterFailure tr'

structure Carried (w : CaptureWorld) (tr : CaptureTrace) (w' : CaptureWorld) (tr' : CaptureTrace) :
    Prop where
  same : w.writer.Same w'.writer
  unmoved : Unmoved tr tr'

/-- Calls that neither receive, write, stop nor close. -/
def Harmless : CaptureCall → Prop
  | .memifRxBurst .. => False
  | .writePcapPacket .. => False
  | .stop => False
  | .closePcapWriter => False
  | _ => True

theorem unmoved_concat {tr : CaptureTrace} {a : CaptureAct} (rx : isRxBurst a = false)
    (stop : isStop a = false) (fine : isWriteFailure a = false) (none : actDelivered a = [])
    (unwritten : actWritten a = []) : Unmoved tr (tr ++ [a]) where
  delivered := by simp [none]
  written := by simp [unwritten]
  orderly := by simp [Orderly, noneAfter_concat_iff, rx]
  stop := by simp [had_concat_iff, stop]
  write := by simp [had_concat_iff, fine]
  failed := Had.concat

theorem carried_signal (w : CaptureWorld) (tr : CaptureTrace) :
    Carried w tr (handleSignal w) (tr ++ [.interrupt]) :=
  ⟨handleSignal_writer w ▸ .refl _, unmoved_concat rfl rfl rfl rfl rfl⟩

theorem carried_serve {w w' : CaptureWorld} {tr : CaptureTrace} {s : BeastieCaptureState}
    {c : CaptureCall} {r : CaptureReply c} (harmless : Harmless c)
    (served : captureServe w (s, c) r w') : Carried w tr w' (tr ++ [.did ⟨(s, c), r⟩]) := by
  constructor
  · cases c with
    | memifRxBurst => exact harmless.elim
    | writePcapPacket => exact harmless.elim
    | stop => exact harmless.elim
    | closePcapWriter => exact harmless.elim
    | flushPcapWriter =>
      obtain ⟨result, _, rfl⟩ := served
      exact flush_same result w.writer
    | keepRunning =>
      obtain ⟨_, rfl⟩ := served
      exact .refl _
    | _ =>
      have kept : w'.writer = w.writer := by simp only [captureServe] at served; simp [served]
      exact kept ▸ .refl _
  · cases c <;> first | exact harmless.elim | exact unmoved_concat rfl rfl rfl rfl rfl

/-! ## What holds at each point of the loop -/

section Points
variable (config : BeastieCaptureConfig) (files : CString → FileContent)

/-- Counters, limit, records and file agree with the trace. -/
structure Accounts (s : BeastieCaptureState) (w : CaptureWorld) (tr : CaptureTrace) : Prop where
  filename : s.pcapFilename = captureFilename config
  max : s.maxBytesToCapture = config.maxCaptureBytes
  packets : s.packetsCaptured = (written tr).length % 2 ^ 64
  bytes : s.bytesCaptured = totalLen (written tr) % 2 ^ 64
  dumped : Recorded w.writer.lib.dumped (written tr)
  filed : written tr ≠ [] → ∃ records,
    w.writer.lib.files (captureFilename config) = .pcap records ∧ Recorded records (written tr)
  unfiled : written tr = [] → ¬ Had isWriteFailure tr →
    w.writer.lib.files (captureFilename config) = files (captureFilename config)
  subseq : (written tr).Sublist (delivered tr)
  limit : totalLen (written tr) < 2 ^ 64 → 0 < config.maxCaptureBytes →
    totalLen (written tr) ≤ config.maxCaptureBytes
  stops : Had isStop tr → 0 < config.maxCaptureBytes ∨ Had isWriterFailure tr

/-- Why the capture stops by itself: a failure, or the limit is reached, or the
next buffer would pass it. -/
def Reason (tr : CaptureTrace) : Prop :=
  Had isWriterFailure tr ∨ 0 < config.maxCaptureBytes ∧ (totalLen (delivered tr) < 2 ^ 64 →
    totalLen (written tr) = config.maxCaptureBytes ∨
      ∃ buf rest, delivered tr = written tr ++ buf :: rest ∧
        config.maxCaptureBytes < totalLen (written tr) + buf.len)

/-- Anywhere in the run. -/
structure Observed (s : BeastieCaptureState) (w : CaptureWorld) (tr : CaptureTrace) : Prop
    extends Accounts config files s w tr where
  order : Orderly tr → written tr <+: delivered tr ∧ (Had isStop tr → Reason config tr)

/-- Between two bursts. -/
structure Told (s : BeastieCaptureState) (w : CaptureWorld) (tr : CaptureTrace) : Prop
    extends Observed config files s w tr where
  whole : ¬ Had isStop tr → delivered tr = written tr

/-- Between two bursts of the loop. -/
structure Settled (s : BeastieCaptureState) (w : CaptureWorld) (tr : CaptureTrace) : Prop
    extends Told config files s w tr where
  held : Held (captureFilename config) w.writer (written tr)

/-- In a burst, with `rest` still to come. -/
structure Taking (rest : List MemifBuffer) (s : BeastieCaptureState) (w : CaptureWorld)
    (tr : CaptureTrace) : Prop extends Accounts config files s w tr where
  held : Held (captureFilename config) w.writer (written tr)
  ahead : (written tr ++ rest).Sublist (delivered tr)
  next : Orderly tr → ¬ Had isStop tr ∧ delivered tr = written tr ++ rest

/-- About to stop. -/
structure Halting (s : BeastieCaptureState) (w : CaptureWorld) (tr : CaptureTrace) : Prop
    extends Accounts config files s w tr where
  held : Held (captureFilename config) w.writer (written tr)
  cause : 0 < config.maxCaptureBytes ∨ Had isWriterFailure tr
  order : Orderly tr → written tr <+: delivered tr ∧ Reason config tr

end Points

section Carry
variable {config : BeastieCaptureConfig} {files : CString → FileContent} {s : BeastieCaptureState}
  {w w' : CaptureWorld} {tr tr' : CaptureTrace}

theorem Reason.carry (h : Reason config tr) (u : Unmoved tr tr') : Reason config tr' := by
  rcases h with failed | ⟨limited, why⟩
  · exact .inl (u.failed failed)
  · refine .inr ⟨limited, ?_⟩
    rw [u.delivered, u.written]
    exact why

/-- Nothing more is written. -/
structure Unwritten (w : CaptureWorld) (tr : CaptureTrace) (w' : CaptureWorld)
    (tr' : CaptureTrace) :
    Prop where
  written : written tr' = written tr
  delivered : delivered tr <+: delivered tr'
  dumped : w'.writer.lib.dumped = w.writer.lib.dumped
  files : w'.writer.lib.files = w.writer.lib.files
  write : Had isWriteFailure tr → Had isWriteFailure tr'

theorem Carried.unwritten (c : Carried w tr w' tr') : Unwritten w tr w' tr' where
  written := c.unmoved.written
  delivered := c.unmoved.delivered ▸ List.prefix_refl _
  dumped := c.same.dumped
  files := c.same.files
  write := c.unmoved.write.2

/-- While nothing more is written the accounts hold, however much is delivered. -/
theorem Accounts.unwritten (h : Accounts config files s w tr) (u : Unwritten w tr w' tr')
    (stops : Had isStop tr' → 0 < config.maxCaptureBytes ∨ Had isWriterFailure tr') :
    Accounts config files s w' tr' where
  filename := h.filename
  max := h.max
  packets := by rw [u.written, h.packets]
  bytes := by rw [u.written, h.bytes]
  dumped := by rw [u.written, u.dumped]; exact h.dumped
  filed := by rw [u.written, u.files]; exact h.filed
  unfiled := by
    rw [u.written, u.files]
    exact fun none fine => h.unfiled none fun failed => fine (u.write failed)
  subseq := by rw [u.written]; exact h.subseq.trans u.delivered.sublist
  limit := by rw [u.written]; exact h.limit
  stops := stops

theorem Accounts.carry (h : Accounts config files s w tr) (c : Carried w tr w' tr') :
    Accounts config files s w' tr' := by
  apply h.unwritten c.unwritten
  rw [c.unmoved.stop]
  exact fun stop => (h.stops stop).imp_right c.unmoved.failed

theorem Observed.unmoved (h : Observed config files s w tr) (u : Unmoved tr tr')
    (accounts : Accounts config files s w' tr') : Observed config files s w' tr' where
  toAccounts := accounts
  order := by
    rw [u.orderly, u.written, u.delivered, u.stop]
    intro orderly
    exact ⟨(h.order orderly).1, fun stop => ((h.order orderly).2 stop).carry u⟩

theorem Observed.carry (h : Observed config files s w tr) (c : Carried w tr w' tr') :
    Observed config files s w' tr' :=
  h.unmoved c.unmoved (h.toAccounts.carry c)

theorem Told.carry (h : Told config files s w tr) (c : Carried w tr w' tr') :
    Told config files s w' tr' where
  toObserved := h.toObserved.carry c
  whole := by rw [c.unmoved.stop, c.unmoved.written, c.unmoved.delivered]; exact h.whole

theorem Settled.carry (h : Settled config files s w tr) (c : Carried w tr w' tr') :
    Settled config files s w' tr' where
  toTold := h.toTold.carry c
  held := by rw [c.unmoved.written]; exact h.held.same c.same

theorem Taking.carry {rest : List MemifBuffer} (h : Taking config files rest s w tr)
    (c : Carried w tr w' tr') : Taking config files rest s w' tr' where
  toAccounts := h.toAccounts.carry c
  held := by rw [c.unmoved.written]; exact h.held.same c.same
  ahead := by rw [c.unmoved.written, c.unmoved.delivered]; exact h.ahead
  next := by
    rw [c.unmoved.orderly, c.unmoved.stop, c.unmoved.written, c.unmoved.delivered]
    exact h.next

theorem Halting.carry (h : Halting config files s w tr) (c : Carried w tr w' tr') :
    Halting config files s w' tr' where
  toAccounts := h.toAccounts.carry c
  held := by rw [c.unmoved.written]; exact h.held.same c.same
  cause := h.cause.imp_right c.unmoved.failed
  order := by
    rw [c.unmoved.orderly, c.unmoved.written, c.unmoved.delivered]
    exact fun orderly => ⟨(h.order orderly).1, (h.order orderly).2.carry c.unmoved⟩

theorem Taking.observed {rest : List MemifBuffer} (h : Taking config files rest s w tr) :
    Observed config files s w tr where
  toAccounts := h.toAccounts
  order := by
    intro orderly
    obtain ⟨going, eq⟩ := h.next orderly
    exact ⟨⟨rest, eq.symm⟩, fun stop => absurd stop going⟩

theorem Halting.observed (h : Halting config files s w tr) : Observed config files s w tr where
  toAccounts := h.toAccounts
  order := fun orderly => ⟨(h.order orderly).1, fun _ => (h.order orderly).2⟩

/-- A burst that is taken whole leaves nothing behind. -/
theorem Taking.settled (h : Taking config files [] s w tr) : Settled config files s w tr where
  toObserved := h.observed
  whole := by
    intro going
    have orderly : Orderly tr := noneAfter_of_not_had going
    simpa using (h.next orderly).2
  held := h.held

/-- A failure of the writer is reason enough to stop. -/
theorem Settled.halting (h : Settled config files s w tr) (failed : Had isWriterFailure tr) :
    Halting config files s w tr where
  toAccounts := h.toAccounts
  held := h.held
  cause := .inr failed
  order := fun orderly => ⟨(h.order orderly).1, .inl failed⟩

end Carry

/-! ## One step at a time -/

section Steps
variable {config : BeastieCaptureConfig} {files : CString → FileContent} {s : BeastieCaptureState}
  {w w' : CaptureWorld} {tr : CaptureTrace}

theorem Settled.burst (qid count : Nat) {burst : MemifBurst} (h : Settled config files s w tr)
    (served : captureServe w (s, .memifRxBurst qid count) burst w') :
    Taking config files burst.bufs s w' (tr ++ [.did ⟨(s, .memifRxBurst qid count), burst⟩]) := by
  obtain ⟨_, _, rfl⟩ := served
  have unwritten : written (tr ++ [.did ⟨(s, .memifRxBurst qid count), burst⟩]) = written tr := by
    simp [actWritten]
  have arrived : delivered (tr ++ [.did ⟨(s, .memifRxBurst qid count), burst⟩]) =
      delivered tr ++ burst.bufs := by simp [actDelivered]
  have stop : Had isStop (tr ++ [.did ⟨(s, .memifRxBurst qid count), burst⟩]) ↔ Had isStop tr := by
    simp [had_concat_iff, isStop]
  constructor
  · apply h.unwritten ⟨unwritten, arrived ▸ List.prefix_append _ _, rfl, rfl, Had.concat⟩
    rw [stop]
    exact fun stop => (h.stops stop).imp_right Had.concat
  · rw [unwritten]; exact h.held
  · rw [unwritten, arrived]
    exact h.subseq.append (List.Sublist.refl _)
  · intro orderly
    obtain ⟨_, going⟩ := noneAfter_concat_iff.1 orderly
    rw [stop, unwritten, arrived, h.whole (going rfl)]
    exact ⟨going rfl, rfl⟩

theorem totalLen_concat (bufs : List MemifBuffer) (buf : MemifBuffer) :
    totalLen (bufs ++ [buf]) = totalLen bufs + buf.len := by
  simp [totalLen]

/-- What is still to come and the stream bound the sums. -/
theorem Taking.sums {buf : MemifBuffer} {rest : List MemifBuffer}
    (h : Taking config files (buf :: rest) s w tr) :
    totalLen (written tr) + buf.len ≤ totalLen (delivered tr) := by
  have le := totalLen_le_of_sublist h.ahead
  rw [totalLen_append, totalLen_cons] at le
  omega

/-- The check before a write refuses a buffer: it would pass the limit. -/
theorem Taking.refused {buf : MemifBuffer} {rest : List MemifBuffer}
    (h : Taking config files (buf :: rest) s w tr)
    (limit : 0 < s.maxBytesToCapture ∧ s.maxBytesToCapture < (s.bytesCaptured + buf.len) % 2 ^ 64) :
    Halting config files s w tr where
  toAccounts := h.toAccounts
  held := h.held
  cause := .inl (h.max ▸ limit.1)
  order := by
    intro orderly
    obtain ⟨_, eq⟩ := h.next orderly
    refine ⟨⟨_, eq.symm⟩, .inr ⟨h.max ▸ limit.1, fun small => .inr ⟨buf, rest, eq, ?_⟩⟩⟩
    have := h.sums
    have := limit.2
    rw [h.max, h.bytes] at this
    omega

/-- The limit is reached behind a write. -/
theorem Taking.reached {rest : List MemifBuffer} (h : Taking config files rest s w tr)
    (limit : 0 < s.maxBytesToCapture ∧ s.maxBytesToCapture ≤ s.bytesCaptured) :
    Halting config files s w tr where
  toAccounts := h.toAccounts
  held := h.held
  cause := .inl (h.max ▸ limit.1)
  order := by
    intro orderly
    obtain ⟨_, eq⟩ := h.next orderly
    refine ⟨⟨_, eq.symm⟩, .inr ⟨h.max ▸ limit.1, fun small => .inl ?_⟩⟩
    have some := totalLen_le_of_sublist h.subseq
    have within := h.limit (some.trans_lt small) (h.max ▸ limit.1)
    have := limit.2
    rw [h.max, h.bytes] at this
    have := Nat.mod_le (totalLen (written tr)) (2 ^ 64)
    omega

section Write
variable {buf : MemifBuffer} {rest : List MemifBuffer} {met : WriteConditions}

/-- A buffer that is written joins the stream's written part. -/
theorem Taking.wrote (h : Taking config files (buf :: rest) s w tr)
    (fits : ¬ (0 < s.maxBytesToCapture ∧
      s.maxBytesToCapture < (s.bytesCaptured + buf.len) % 2 ^ 64))
    (ok : (writePcapPacket met s.pcapFilename buf.data w.writer).1 = 0) :
    Taking config files rest (countPacket buf s)
      { w with writer := (writePcapPacket met s.pcapFilename buf.data w.writer).2 }
      (tr ++ [.did ⟨(s, .writePcapPacket s.pcapFilename buf), (0 : Int)⟩]) := by
  have grown : written (tr ++ [.did ⟨(s, .writePcapPacket s.pcapFilename buf), (0 : Int)⟩]) =
      written tr ++ [buf] := by simp [actWritten]
  have still : delivered (tr ++ [.did ⟨(s, .writePcapPacket s.pcapFilename buf), (0 : Int)⟩]) =
      delivered tr := by simp [actDelivered]
  have filename := h.filename
  rw [filename] at ok
  obtain ⟨_, held, record, holds, dumped⟩ | ⟨failed, _⟩ := h.held.write met buf
  case inr => omega
  have ahead : (written tr ++ [buf] ++ rest).Sublist (delivered tr) := by simpa using h.ahead
  constructor
  · refine ⟨filename, h.max, ?_, ?_, ?_, ?_, ?_, ?_, ?_, ?_⟩
    · rw [grown]
      simp [countPacket, h.packets]
    · rw [grown, totalLen_concat]
      simp [countPacket, h.bytes]
    · rw [grown, filename, dumped]
      exact h.dumped.concat holds
    · rw [grown, filename]
      rcases held with ⟨none, _⟩ | ⟨_, records, opened, recorded⟩
      · simp at none
      · exact fun _ => ⟨records, opened.file, recorded⟩
    · rw [grown]
      exact fun none => absurd none (by simp)
    · rw [grown, still]
      exact (List.sublist_append_left _ _).trans ahead
    · rw [grown, totalLen_concat]
      intro small limited
      rw [h.max, h.bytes] at fits
      omega
    · intro stop
      refine (h.stops ?_).imp_right Had.concat
      simpa [had_concat_iff, isStop] using stop
  · rw [grown, filename]; exact held
  · rw [grown, still]; exact ahead
  · intro orderly
    obtain ⟨going, eq⟩ := h.next (noneAfter_concat_iff.1 orderly).1
    refine ⟨by simpa [had_concat_iff, isStop] using going, ?_⟩
    rw [grown, still, eq]
    simp

theorem Taking.failed {result : Int} (h : Taking config files (buf :: rest) s w tr)
    (eq : result = (writePcapPacket met s.pcapFilename buf.data w.writer).1) (bad : result ≠ 0) :
    Halting config files s
      { w with writer := (writePcapPacket met s.pcapFilename buf.data w.writer).2 }
      (tr ++ [.did ⟨(s, .writePcapPacket s.pcapFilename buf), result⟩]) := by
  have still : written (tr ++ [.did ⟨(s, .writePcapPacket s.pcapFilename buf), result⟩]) =
      written tr := by simp [actWritten, bad]
  have same : delivered (tr ++ [.did ⟨(s, .writePcapPacket s.pcapFilename buf), result⟩]) =
      delivered tr := by simp [actDelivered]
  have failure :
      isWriteFailure (.did ⟨(s, .writePcapPacket s.pcapFilename buf), result⟩) = true := by
    simpa [isWriteFailure] using bad
  have failed : Had isWriterFailure
      (tr ++ [.did ⟨(s, .writePcapPacket s.pcapFilename buf), result⟩]) :=
    had_concat_iff.2 (.inr (by simp [isWriterFailure, failure]))
  have filename := h.filename
  rw [filename] at eq
  obtain ⟨ok, _⟩ | ⟨_, held, dumped⟩ := h.held.write met buf
  case inl => exact absurd (eq.trans ok) bad
  constructor
  · refine ⟨filename, h.max, ?_, ?_, ?_, ?_, ?_, ?_, ?_, fun _ => .inr failed⟩
    · rw [still]; exact h.packets
    · rw [still]; exact h.bytes
    · rw [still, filename, dumped]; exact h.dumped
    · rw [still, filename]
      rcases held with ⟨none, _⟩ | ⟨_, records, opened, recorded⟩
      · exact fun some => absurd none some
      · exact fun _ => ⟨records, opened.file, recorded⟩
    · exact fun _ fine => absurd (had_concat_iff.2 (.inr failure)) fine
    · rw [still, same]; exact h.subseq
    · rw [still]; exact h.limit
  · rw [still, filename]; exact held
  · exact .inr failed
  · intro orderly
    obtain ⟨_, eq⟩ := h.next (noneAfter_concat_iff.1 orderly).1
    rw [still, same]
    exact ⟨⟨_, eq.symm⟩, .inl failed⟩

end Write

theorem Halting.stopped (h : Halting config files s w tr) :
    Settled config files s { w with keepRunning := false } (tr ++ [.did ⟨(s, .stop), ()⟩]) := by
  have still : written (tr ++ [.did ⟨(s, .stop), ()⟩]) = written tr := by simp [actWritten]
  have same : delivered (tr ++ [.did ⟨(s, .stop), ()⟩]) = delivered tr := by simp [actDelivered]
  have stop : Had isStop (tr ++ [.did ⟨(s, .stop), ()⟩]) := had_concat_iff.2 (.inr rfl)
  have u : Unwritten w tr { w with keepRunning := false } (tr ++ [.did ⟨(s, .stop), ()⟩]) :=
    ⟨still, same ▸ List.prefix_refl _, rfl, rfl, Had.concat⟩
  refine ⟨⟨⟨?_, ?_⟩, fun going => absurd stop going⟩, ?_⟩
  · exact h.unwritten u fun _ => h.cause.imp_right Had.concat
  · intro orderly
    obtain ⟨pre, reason⟩ := h.order (noneAfter_concat_iff.1 orderly).1
    rw [still, same]
    refine ⟨pre, fun _ => reason.imp Had.concat ?_⟩
    rw [still, same]
    exact id
  · rw [still]; exact h.held

/-- Closing the writer keeps what is told, though not the open file. -/
theorem Told.closed (h : Told config files s w tr) (result : Int) :
    Told config files s { w with writer := closePcapWriter result w.writer }
      (tr ++ [.did ⟨(s, .closePcapWriter), ()⟩]) := by
  obtain ⟨kept, dumped⟩ := close_same result w.writer
  have u : Unmoved tr (tr ++ [.did ⟨(s, .closePcapWriter), ()⟩]) :=
    unmoved_concat rfl rfl rfl rfl rfl
  refine ⟨h.toObserved.unmoved u ?_, ?_⟩
  · apply h.unwritten ⟨u.written, u.delivered ▸ List.prefix_refl _, dumped, kept, u.write.2⟩
    rw [u.stop]
    exact fun stop => (h.stops stop).imp_right u.failed
  · rw [u.stop, u.written, u.delivered]; exact h.whole

end Steps

/-! ## The outline -/

section Outline
variable {config : BeastieCaptureConfig} {files : CString → FileContent}

/-- At every call; at the loop test nothing delivered is left out. -/
def StreamAt (config : BeastieCaptureConfig) (files : CString → FileContent)
    (c : BeastieCaptureState × CaptureCall) (w : CaptureWorld) (tr : CaptureTrace) : Prop :=
  Observed config files c.1 w tr ∧ (c.2 = .keepRunning → Told config files c.1 w tr)

/-- Calls that change nothing here, outside the tests of the flag. -/
def Passing (c : CaptureCall) : Prop := Harmless c ∧ c ≠ .keepRunning

theorem housekeeping_passing {c : CaptureCall} (h : Housekeeping c) : Passing c := by
  cases c <;> first | exact h.elim | exact ⟨trivial, by simp⟩

/-- What is carried along lasts through calls that change nothing. -/
theorem safe_carried {A : BeastieCaptureState → CaptureWorld → CaptureTrace → Prop}
    (observed : ∀ s w tr, A s w tr → Observed config files s w tr)
    (carry : ∀ s w tr w' tr', Carried w tr w' tr' → A s w tr → A s w' tr')
    {α : Type} {m : CaptureM α} (reads : Reads Passing m) {s : BeastieCaptureState}
    {w : CaptureWorld} {tr : CaptureTrace} (now : A s w tr) :
    Safe captureEnv Guard.free (StreamAt config files) (fun x => A x.2) (m s) w tr := by
  apply Safe.reading reads ?_ ?_ ?_ now
  · intro s c w tr hc h
    exact ⟨observed s w tr h, fun test => absurd test hc.2⟩
  · intro s c w tr hc h met
    exact carry s w tr _ _ (carried_signal w tr) h
  · intro s c w tr r w' hc h served met
    exact carry s w tr _ _ (carried_serve hc.1 served) h

theorem safe_settled {α : Type} {m : CaptureM α} (reads : Reads Passing m)
    {s : BeastieCaptureState} {w : CaptureWorld} {tr : CaptureTrace}
    (now : Settled config files s w tr) :
    Safe captureEnv Guard.free (StreamAt config files) (fun x => Settled config files x.2)
      (m s) w tr :=
  safe_carried (fun _ _ _ h => h.toObserved) (fun _ _ _ _ _ c h => h.carry c) reads now

theorem safe_halting {α : Type} {m : CaptureM α} (reads : Reads Passing m)
    {s : BeastieCaptureState} {w : CaptureWorld} {tr : CaptureTrace}
    (now : Halting config files s w tr) :
    Safe captureEnv Guard.free (StreamAt config files) (fun x => Halting config files x.2)
      (m s) w tr :=
  safe_carried (fun _ _ _ h => h.observed) (fun _ _ _ _ _ c h => h.carry c) reads now

theorem reads_log_passing (level : AppLogLevel) (format : String) (args : List PrintArg) :
    Reads Passing (beastieLog level format args) := reads_call ⟨trivial, by simp⟩

theorem safe_stop {α : Type} (a : α) {s : BeastieCaptureState} {w : CaptureWorld}
    {tr : CaptureTrace} (now : Halting config files s w tr) :
    Safe captureEnv Guard.free (StreamAt config files) (fun x => Settled config files x.2)
      ((call .stop >>= fun _ => pure a : CaptureM α) s) w tr := by
  refine Safe.ask (c := .stop) (Halting config files s) now ?_ ?_ ?_
  · exact fun w tr h met => h.carry (carried_signal w tr)
  · exact fun w tr h => ⟨h.observed, by simp⟩
  rintro w tr r w' h rfl met
  exact .done h.stopped

theorem safe_onInterruptLoop (bufs : List MemifBuffer) {s : BeastieCaptureState} {w : CaptureWorld}
    {tr : CaptureTrace} (now : Taking config files bufs s w tr) :
    Safe captureEnv Guard.free (StreamAt config files) (fun x => Settled config files x.2)
      (onInterruptLoop bufs s) w tr := by
  induction bufs generalizing s w tr with
  | nil => exact .done now.settled
  | cons buf bufs ih =>
    unfold onInterruptLoop
    rw [vars_bind]
    by_cases refused : 0 < s.maxBytesToCapture ∧
        s.maxBytesToCapture < (s.bytesCaptured + buf.len) % 2 ^ 64
    · rw [if_pos refused]
      exact safe_stop none (now.refused refused)
    · rw [if_neg refused]
      refine Safe.ask (c := .writePcapPacket s.pcapFilename buf)
        (Taking config files (buf :: bufs) s) now ?_ ?_ ?_
      · exact fun w tr h met => h.carry (carried_signal w tr)
      · exact fun w tr h => ⟨h.observed, by simp⟩
      rintro w tr result w' h ⟨conditions, eq, rfl⟩ met
      by_cases bad : result ≠ 0
      · rw [if_pos bad]
        refine Safe.seq (safe_halting (reads_log_passing _ _ _) (h.failed eq bad)) ?_
        intro _ s w tr h
        exact safe_stop (some (MemifErr.other (-1))) h
      · rw [if_neg bad, update_bind, vars_bind]
        obtain rfl : result = 0 := by simpa using bad
        have wrote := h.wrote refused eq.symm
        by_cases reached : 0 < (countPacket buf s).maxBytesToCapture ∧
            (countPacket buf s).maxBytesToCapture ≤ (countPacket buf s).bytesCaptured
        · rw [if_pos reached]
          exact safe_stop none (wrote.reached reached)
        · rw [if_neg reached]
          exact ih wrote

/-- The interval's counter plays no part in the accounts. -/
theorem Settled.flushed {s : BeastieCaptureState} {w : CaptureWorld} {tr : CaptureTrace}
    (h : Settled config files s w tr) (n : Nat) :
    Settled config files { s with bytesSinceLastFlush := n } w tr :=
  ⟨⟨⟨⟨h.filename, h.max, h.packets, h.bytes, h.dumped, h.filed, h.unfiled, h.subseq, h.limit,
    h.stops⟩, h.order⟩, h.whole⟩, h.held⟩

theorem safe_onInterruptFlush {s : BeastieCaptureState} {w : CaptureWorld} {tr : CaptureTrace}
    (now : Settled config files s w tr) :
    Safe captureEnv Guard.free (StreamAt config files) (fun x => Settled config files x.2)
      (onInterruptFlush s) w tr := by
  unfold onInterruptFlush
  rw [vars_bind]
  by_cases due : pcapFlushIntervalBytes ≤ s.bytesSinceLastFlush
  · rw [if_pos due]
    refine Safe.ask (c := .flushPcapWriter) (Settled config files s) now ?_ ?_ ?_
    · exact fun w tr h met => h.carry (carried_signal w tr)
    · exact fun w tr h => ⟨h.toObserved, by simp⟩
    rintro w tr result w' h served met
    have later := h.carry (carried_serve (c := .flushPcapWriter) trivial served)
    by_cases bad : result ≠ 0
    · rw [if_pos bad]
      have failed : Had isWriterFailure (tr ++ [.did ⟨(s, .flushPcapWriter), result⟩]) :=
        had_concat_iff.2 <| .inr <| by
          simpa [isWriterFailure, isWriteFailure, isFlushFailure] using bad
      refine Safe.seq (safe_halting (reads_log_passing _ _ _) (later.halting failed)) ?_
      intro _ s w tr h
      exact safe_stop (some (MemifErr.other (-1))) h
    · rw [if_neg bad]
      exact .done (later.flushed 0)
  · rw [if_neg due]
    exact .done now

theorem safe_onInterruptEnd (qid rx : Nat) {s : BeastieCaptureState} {w : CaptureWorld}
    {tr : CaptureTrace} (now : Settled config files s w tr) :
    Safe captureEnv Guard.free (StreamAt config files) (fun x => Settled config files x.2)
      (onInterruptEnd qid rx s) w tr := by
  have progress : Reads Passing (whenever (0 < rx) printCaptureProgress) :=
    (reads_printCaptureProgress fun _ _ => ⟨trivial, by simp⟩).whenever
  refine Safe.seq (safe_settled progress now) fun _ s w tr h => ?_
  refine Safe.seq (safe_onInterruptFlush h) fun early s w tr h => ?_
  cases early with
  | some err => exact .done h
  | none =>
    exact safe_settled (reads_onInterruptRefill (fun _ _ _ => ⟨trivial, by simp⟩)
      ⟨trivial, by simp⟩) h

theorem safe_onInterrupt (qid : Nat) {s : BeastieCaptureState} {w : CaptureWorld}
    {tr : CaptureTrace} (now : Settled config files s w tr) :
    Safe captureEnv Guard.free (StreamAt config files) (fun x => Settled config files x.2)
      (onInterrupt qid s) w tr := by
  refine Safe.ask (c := .memifRxBurst qid maxMemifBufs) (Settled config files s) now ?_ ?_ ?_
  · exact fun w tr h met => h.carry (carried_signal w tr)
  · exact fun w tr h => ⟨h.toObserved, by simp⟩
  rintro w tr ⟨err, bufs⟩ w' h served met
  have taking := h.burst qid maxMemifBufs served
  by_cases failed : err ≠ .success
  · rw [if_pos failed]
    -- A failed burst delivers nothing.
    obtain rfl : bufs = [] := served.1 failed
    exact Safe.seq (safe_settled (reads_log_passing _ _ _) taking.settled) fun _ _ _ _ h => .done h
  · rw [if_neg failed]
    refine Safe.seq (safe_onInterruptLoop bufs taking) fun early s w tr h => ?_
    cases early with
    | some err => exact .done h
    | none => exact safe_onInterruptEnd qid _ h

theorem safe_pollCallbacks (callbacks : List MemifCallback) {s : BeastieCaptureState}
    {w : CaptureWorld} {tr : CaptureTrace} (now : Settled config files s w tr) :
    Safe captureEnv Guard.free (StreamAt config files) (fun x => Settled config files x.2)
      (pollCallbacks callbacks s) w tr := by
  induction callbacks generalizing s w tr with
  | nil => exact .done now
  | cons callback rest ih =>
    cases callback with
    | connect =>
      exact Safe.seq (safe_settled (reads_onConnect.mono fun _ => housekeeping_passing) now)
        fun _ _ _ _ h => ih h
    | disconnect =>
      exact Safe.seq (safe_settled (reads_onDisconnect.mono fun _ => housekeeping_passing) now)
        fun _ _ _ _ h => ih h
    | interrupt qid =>
      refine Safe.seq (safe_onInterrupt qid now) ?_
      intro err s w tr h
      by_cases failed : err ≠ .success
      · rw [if_pos failed]
        exact .done h
      · rw [if_neg failed]
        exact ih h

theorem safe_memifPollEvent_settled {s : BeastieCaptureState} {w : CaptureWorld} {tr : CaptureTrace}
    (now : Settled config files s w tr) :
    Safe captureEnv Guard.free (StreamAt config files) (fun x => Settled config files x.2)
      (memifPollEvent s) w tr := by
  have begin : Reads Passing (call .memifPollEvent) := reads_call ⟨trivial, by simp⟩
  have wait : Reads Passing (call .pollWait) := reads_call ⟨trivial, by simp⟩
  refine Safe.seq (safe_settled begin now) fun _ s w tr h => ?_
  refine Safe.seq (safe_settled wait h) fun poll s w tr h => ?_
  refine Safe.seq (safe_pollCallbacks _ h) fun early s w tr h => ?_
  have leave : Reads Passing (call (.pollReturn (early.getD poll.err))) :=
    reads_call ⟨trivial, by simp⟩
  exact Safe.seq (safe_settled leave h) fun _ s w tr h => .done h

theorem safe_keepRunning {s : BeastieCaptureState} {w : CaptureWorld} {tr : CaptureTrace}
    (now : Settled config files s w tr) :
    Safe captureEnv Guard.free (StreamAt config files) (fun x => Settled config files x.2)
      (keepRunning s) w tr := by
  refine Safe.call (Settled config files s) now ?_ ?_ ?_
  · exact fun w tr h met => h.carry (carried_signal w tr)
  · exact fun w tr h => ⟨h.toObserved, fun _ => h.toTold⟩
  · exact fun w tr r w' h served met =>
      .done (h.carry (carried_serve (c := .keepRunning) trivial served))

theorem safe_captureCleanup (handles : CaptureHandles) {s : BeastieCaptureState}
    {w : CaptureWorld} {tr : CaptureTrace} (now : Settled config files s w tr) :
    Safe captureEnv Guard.free (StreamAt config files) (fun x => Told config files x.2)
      (captureCleanup handles s) w tr := by
  have told : ∀ {α : Type} {m : CaptureM α}, Reads Passing m →
    ∀ {s w tr}, Told config files s w tr →
      Safe captureEnv Guard.free (StreamAt config files) (fun x => Told config files x.2)
        (m s) w tr :=
    fun reads _ _ _ h =>
      safe_carried (fun _ _ _ h => h.toObserved) (fun _ _ _ _ _ c h => h.carry c) reads h
  have delete : Reads Passing (whenever handles.conn (call .memifDelete)) :=
    (reads_call ⟨trivial, by simp⟩).whenever
  have deleteSocket : Reads Passing (whenever handles.socket (call .memifDeleteSocket)) :=
    (reads_call ⟨trivial, by simp⟩).whenever
  have detach : Reads Passing (call .detach) := reads_call ⟨trivial, by simp⟩
  refine Safe.seq (safe_settled detach now) fun _ s w tr h => ?_
  refine Safe.ask (c := .closePcapWriter) (Settled config files s) h ?_ ?_ ?_
  · exact fun w tr h met => h.carry (carried_signal w tr)
  · exact fun w tr h => ⟨h.toObserved, by simp⟩
  rintro w tr r w' h ⟨result, rfl⟩ met
  exact Safe.seq (told delete (h.toTold.closed result)) fun _ s w tr h => told deleteSocket h

theorem safe_captureFinish (handles : CaptureHandles) {s : BeastieCaptureState}
    {w : CaptureWorld} {tr : CaptureTrace} (now : Settled config files s w tr) :
    Safe captureEnv Guard.free (StreamAt config files) (fun x => Told config files x.2)
      (captureFinish handles s) w tr := by
  have flush : Reads Passing captureFlush := by
    refine reads_vars.bind fun state => ?_
    refine Reads.bind (reads_call (c := .flushPcapWriter) ⟨trivial, by simp⟩) fun result => ?_
    exact Reads.ite ((reads_log_passing _ _ _).bind fun _ => reads_pure _) (reads_pure _)
  have summary : Reads Passing printCaptureSummary :=
    reads_printCaptureSummary (fun _ _ _ => ⟨trivial, by simp⟩) fun _ _ => ⟨trivial, by simp⟩
  refine Safe.seq (safe_settled flush now) fun rc s w tr h => ?_
  refine Safe.seq (safe_settled summary h) fun _ s w tr h => ?_
  exact Safe.seq (safe_captureCleanup handles h) fun _ s w tr h => .done h

theorem settled_start (config : BeastieCaptureConfig) (files : CString → FileContent) :
    Settled config files (beastieCaptureStateInit config) ⟨true, true, .initial files⟩ [] where
  filename := rfl
  max := rfl
  packets := rfl
  bytes := rfl
  dumped := .nil
  filed := fun some => absurd rfl some
  unfiled := fun _ _ => rfl
  subseq := .slnil
  limit := fun _ _ => Nat.zero_le _
  stops := fun stop => absurd stop not_had_nil
  order := fun _ => ⟨List.prefix_refl _, fun stop => absurd stop not_had_nil⟩
  whole := fun _ => rfl
  held := .inl ⟨rfl, rfl, rfl, rfl⟩

/-- In every state of every run the accounts hold; at the loop test and behind
the return nothing delivered is left out. -/
theorem capture_stream {x : CaptureConfiguration} (run : CaptureRun Guard.free config files x) :
    Meets (StreamAt config files) (fun x => Settled config files x.2)
      (fun x => Told config files x.2) x := by
  refine capture_meets (J := Settled config files) (Q := fun _ => Told config files) ?_ ?_ ?_ ?_ run
  · refine safe_captureStart (F := Settled config files) ?_ ?_
    · have setUp : Reads Passing captureSetUp :=
        reads_captureSetUp_housekeeping.mono fun _ => housekeeping_passing
      exact safe_either Prod.snd (safe_settled setUp (settled_start config files))
        (fun _ _ _ _ h => h)
        fun _ _ _ _ h => h
    · exact fun handles s w tr h => safe_captureCleanup handles h
  · refine safe_capturePass (R := Settled config files) (E := Settled config files)
      (T := fun _ => Settled config files) (F := fun _ => Settled config files) ?_ ?_ ?_ ?_ ?_ ?_
    · exact fun s w tr h =>
        safe_either id (safe_keepRunning h) (fun _ _ _ _ h => h) fun _ _ _ _ h => h
    · exact fun s w tr h => safe_memifPollEvent_settled h
    · exact fun _ s w tr h =>
        safe_either id (safe_keepRunning h) (fun _ _ _ _ h => h) fun _ _ _ _ h => h
    · exact fun _ s w tr _ h => h
    · intro handles err s w tr _ h
      exact Safe.seq (safe_settled (reads_log_passing _ _ _) h) fun _ s w tr h =>
        safe_captureCleanup handles h
    · exact fun handles s w tr h => safe_captureFinish handles h
  · exact fun s w tr h met => h.carry (carried_signal w tr)
  · exact fun rc s w tr h met => h.carry (carried_signal w tr)

end Outline

end BeastieBoy
