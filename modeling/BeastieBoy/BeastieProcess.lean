import BeastieBoy.BeastieOptions
import BeastieBoy.CaptureReports

/-!
# From the command line to the files

A run of `beastie` as a whole: it asks libmemif for the socket and the interface
that its command line names, writes the file that it names, and leaves every other
file as it was.
-/

namespace BeastieBoy

open CLib Interact Local OptionTable

/-! ## The file that is written -/

/-- All files but one are as they were, and a dumper is one on that. -/
structure Spares (files : CString → FileContent) (name : CString) (w : PcapWriter) : Prop where
  others : ∀ f, f ≠ name → w.lib.files f = files f
  dumper : ∀ d, w.dumper = some d → d.file = name

section Writer
variable {files : CString → FileContent} {name : CString} {w : PcapWriter}

theorem setFile_other (lib : Libpcap) (content : FileContent) {f : CString} (other : f ≠ name) :
    (lib.setFile name content).files f = lib.files f := if_neg other

theorem dump_other {dumper : Option PcapDumper} (own : ∀ d, dumper = some d → d.file = name)
    (record : PcapRecord) (lib : Libpcap) {f : CString} (other : f ≠ name) :
    (lib.dump dumper record).files f = lib.files f := by
  unfold Libpcap.dump
  cases dumper with
  | none => rfl
  | some d =>
    cases own d rfl
    dsimp only
    split
    · exact setFile_other lib _ other
    · rfl

theorem Spares.opened (h : Spares files name w) (met : WriteConditions) :
    Spares files name (openPcapWriter met name w).2 := by
  unfold openPcapWriter
  cases dead : met.openDead with
  | false => exact ⟨h.others, h.dumper⟩
  | true =>
    simp only [Libpcap.openDead, ↓reduceIte]
    cases dump : met.dumpOpen with
    | opened =>
      refine ⟨fun f other => (setFile_other _ _ other).trans (h.others f other), fun d held => ?_⟩
      cases held
      rfl
    | failed left =>
      refine ⟨fun f other => (setFile_other _ _ other).trans (h.others f other), fun d held => ?_⟩
      cases held

theorem Spares.write (h : Spares files name w) (met : WriteConditions) (data : List UInt8) :
    Spares files name (writePcapPacket met name data w).2 := by
  have opened : Spares files name
      (if w.initialized then (true, w) else openPcapWriter met name w).2 := by
    split
    · exact h
    · exact h.opened met
  unfold writePcapPacket
  dsimp only
  generalize (if w.initialized then (true, w) else openPcapWriter met name w) = o at opened ⊢
  split
  · exact ⟨fun f other => (dump_other opened.dumper _ _ other).trans (opened.others f other),
      opened.dumper⟩
  · exact opened

theorem Spares.same {w' : PcapWriter} (h : Spares files name w) (same : w.Same w') :
    Spares files name w' :=
  ⟨fun f other => (congrFun same.files f).trans (h.others f other),
    fun d held => h.dumper d (same.dumper ▸ held)⟩

theorem Spares.close (h : Spares files name w) (result : Int) :
    Spares files name (closePcapWriter result w) :=
  ⟨fun f other => (congrFun (close_same result w).1 f).trans (h.others f other),
    fun _ held => by cases held⟩

end Writer

/-! ## What the calls name -/

section Runs
variable {config : BeastieCaptureConfig} {files : CString → FileContent} {ok : CaptureGuard}

/-- What a call names is what the configuration names. -/
def Names (config : BeastieCaptureConfig) : CaptureCall → Prop
  | .memifCreateSocket path _ => path = captureSocket config
  | .memifCreate interfaceId _ => interfaceId = config.memifId
  | .writePcapPacket filename _ => filename = captureFilename config
  | _ => True

theorem names_of_allowed {phase : CapturePhase} {s : BeastieCaptureState} {c : CaptureCall}
    {behind : CaptureReply c → CapturePhase}
    (allowed : captureNext config phase (s, c) = some behind) :
    Names config c := by
  cases c with
  | memifCreateSocket path appName =>
    cases phase with
    | fresh => exact (Option.ite_none_right_eq_some.1 allowed).1.1
    | taking h qid rx bufs => cases bufs <;> cases allowed
    | _ => cases allowed
  | memifCreate interfaceId interfaceName =>
    cases phase with
    | joining socket => exact (Option.ite_none_right_eq_some.1 allowed).1.1
    | taking h qid rx bufs => cases bufs <;> cases allowed
    | _ => cases allowed
  | writePcapPacket filename buf =>
    cases phase with
    | taking h qid rx bufs =>
      cases bufs with
      | nil => cases allowed
      | cons next bufs => exact (Option.ite_none_right_eq_some.1 allowed).1.1
    | _ => cases allowed
  | _ => trivial

theorem capture_names {x : CaptureConfiguration} (run : CaptureRun ok config files x) :
    ∀ e ∈ events x.trace, Names config e.call.2 := by
  rintro ⟨⟨s, c⟩, r⟩ there
  obtain ⟨t, u, split⟩ := List.append_of_mem (mem_events_iff.1 there)
  obtain ⟨_, phase, behind, allowed, _⟩ := reported run split
  exact names_of_allowed allowed

theorem Spares.serve {name : CString} {w w' : CaptureWorld} {s : BeastieCaptureState}
    {c : CaptureCall} {r : CaptureReply c} (h : Spares files name w.writer)
    (named : ∀ filename buf, c = .writePcapPacket filename buf → filename = name)
    (served : captureServe w (s, c) r w') : Spares files name w'.writer := by
  cases c with
  | writePcapPacket filename buf =>
    obtain ⟨met, _, rfl⟩ := served
    cases named filename buf rfl
    exact h.write met buf.data
  | flushPcapWriter =>
    obtain ⟨result, _, rfl⟩ := served
    exact h.same (flush_same result w.writer)
  | closePcapWriter =>
    obtain ⟨result, rfl⟩ := served
    exact h.close result
  | keepRunning =>
    obtain ⟨_, rfl⟩ := served
    exact h
  | memifRxBurst =>
    obtain ⟨_, _, rfl⟩ := served
    exact h
  | _ =>
    have kept : w'.writer = w.writer := by
      simp only [captureServe] at served
      simp [served]
    exact kept ▸ h

/-- No file but its own is touched. -/
theorem capture_spares {x : CaptureConfiguration} (run : CaptureRun ok config files x) :
    Spares files (captureFilename config) x.world.writer := by
  refine run.preserves (P := fun x => (∀ e ∈ events x.trace, Names config e.call.2) →
    Spares files (captureFilename config) x.world.writer) ?_ (fun _ => ⟨fun _ _ => rfl, nofun⟩)
      (capture_names run)
  intro a b step ih names
  cases step with
  | @reply c next w w' tr r served met =>
    rw [events_append] at names
    have here := names ⟨c, r⟩ (by simp)
    refine (ih fun e there => names e (List.mem_append_left _ there)).serve ?_ served
    rintro filename buf same
    rw [same] at here
    exact here
  | interrupt met =>
    rw [events_append] at names
    have kept := ih fun e there => names e (List.mem_append_left _ there)
    rw [← handleSignal_writer] at kept
    exact kept
  | turn => exact ih names

end Runs

/-! ## What the command line names -/

/-- The file of the last `-w`, unless there is none or it is empty. -/
def outputNamed (given : List BeastieOpt) : CString :=
  orDefault (lastFor .write given) beastieDefaultOutputFilename

/-- The path of the last `-s`, as much of it as there is room for. -/
def socketNamed (given : List BeastieOpt) : CString :=
  snprintf memifSocketPathSize (orDefault (lastFor .socket given) beastieDefaultMemifSocketPath)

/-- What a call names is what the command line names. -/
def NamedBy (given : List BeastieOpt) : CaptureCall → Prop
  | .memifCreateSocket path _ => path = socketNamed given
  | .memifCreate interfaceId _ => Taken parseMemifId 0 (lastFor .id given) interfaceId
  | .writePcapPacket filename _ => filename = outputNamed given
  | _ => True

section CommandLine
variable {posixlyCorrect : Bool} {argv : List CString} {given : List BeastieOpt}
    {config : BeastieCaptureConfig}

/-- A capture is started by a command line without `--version`, with its values. -/
theorem readFrom_of_capturing (spelled : beastieOptionTable.Spells posixlyCorrect argv.tail given)
    (main : beastieMain posixlyCorrect argv = .capturing config) :
    ∃ options : BeastieCliOptions, options.ReadFrom given ∧ options.capture = config ∧
      options.mode = .capture := by
  have same : beastieOptions posixlyCorrect argv = given := spelled.getoptLong_eq
  unfold beastieMain at main
  cases parsed : beastieParseCliOptions posixlyCorrect argv with
  | error exit =>
    rw [parsed] at main
    cases exit <;> cases main
  | ok options =>
    rw [parsed] at main
    rw [beastieParseCliOptions, same] at parsed
    have read := BeastieCliOptions.readFrom_default.foldlM parsed
    simp only [beastieRun] at main
    split at main
    · cases main
    · rename_i capturing
      cases main
      exact ⟨options, read, rfl, capturing⟩

theorem captureFilename_named {options : BeastieCliOptions} (read : options.ReadFrom given) :
    captureFilename options.capture = outputNamed given := by
  have output := read.output
  unfold captureFilename beastieCaptureStateInit outputNamed
  cases last : lastFor .write given with
  | none =>
    rw [last] at output
    rw [show options.capture.outputFilename = some "capture.pcap".toList from output]
    rfl
  | some name =>
    rw [last] at output
    exact congrArg (orDefault · beastieDefaultOutputFilename) (Option.some.inj output).symm

theorem captureSocket_named {options : BeastieCliOptions} (read : options.ReadFrom given) :
    captureSocket options.capture = socketNamed given := by
  have socket := read.socket
  unfold captureSocket beastieCaptureStateInit socketNamed
  cases last : lastFor .socket given with
  | none =>
    rw [last] at socket
    rw [show options.capture.memifSocketPath = some "/run/vpp/memif.sock".toList from socket]
    rfl
  | some path =>
    rw [last] at socket
    simp only [Taken, memifNameArgument] at socket
    split at socket
    · cases socket
    · rw [Option.some.inj socket]

theorem namedBy_of_names {options : BeastieCliOptions} (read : options.ReadFrom given)
    {c : CaptureCall} (named : Names options.capture c) : NamedBy given c := by
  cases c with
  | memifCreateSocket path appName => exact named.trans (captureSocket_named read)
  | memifCreate interfaceId interfaceName =>
    cases named
    exact read.memifId
  | writePcapPacket filename buf => exact named.trans (captureFilename_named read)
  | _ => trivial

/-- **From the command line to the files.** However the capture runs and wherever
a signal comes, it asks for the socket and the interface its command line names;
the file it names, unless that is `-`, holds the packets written, in the order they
were delivered, within the limit it names; every other file is what it was, and so
is that one until a write. A record that libpcap accepted is in the file. -/
theorem beastie_process (spelled : beastieOptionTable.Spells posixlyCorrect argv.tail given)
    (main : beastieMain posixlyCorrect argv = .capturing config) {files : CString → FileContent}
    {ok : CaptureGuard} {x : CaptureConfiguration} (run : CaptureRun ok config files x) :
    .flag .version ∉ given ∧ (∀ e ∈ events x.trace, NamedBy given e.call.2) ∧
    (∀ f, f ≠ outputNamed given → x.world.writer.lib.files f = files f) ∧
    (written x.trace = [] → ¬ Had isWriteFailure x.trace → x.world.writer.lib.files = files) ∧
    (outputNamed given ≠ "-".toList → written x.trace ≠ [] →
      ∃ records, x.world.writer.lib.files (outputNamed given) = .pcap records ∧
        Recorded records (written x.trace)) ∧
    (written x.trace).Sublist (delivered x.trace) ∧
    ∃ max, Taken parseMaxCaptureBytes 655360 (lastFor .maxBytes given) max ∧
      (0 < max → totalLen (written x.trace) < 2 ^ 64 → totalLen (written x.trace) ≤ max) := by
  obtain ⟨options, read, rfl, capturing⟩ := readFrom_of_capturing spelled main
  have spared := capture_spares run
  have observed := capture_observed (run.mono fun _ _ _ _ _ => trivial)
  have filename := captureFilename_named read
  refine ⟨fun version => ?_, fun e there => namedBy_of_names read (capture_names run e there), ?_,
    ?_, ?_, observed.subseq, _, read.maxBytes, fun limited small => observed.limit small limited⟩
  · rw [read.mode, if_pos version] at capturing
    cases capturing
  · exact fun f other => spared.others f (filename ▸ other)
  · intro none fine
    funext f
    by_cases own : f = captureFilename options.capture
    · rw [own]
      exact observed.unfiled none fine
    · exact spared.others f own
  · rw [← filename]
    exact fun _ => observed.filed

end CommandLine

def writeLine : List CString := ["beastie", "-w", "out.pcap", "--max-bytes=0"].map String.toList

/-- A packet of one byte, to a file of its own. -/
theorem process_of_one : ∃ config x, beastieMain false writeLine = .capturing config ∧
    CaptureRun Guard.free config (fun _ => .other [1]) x ∧
    x.world.writer.lib.files "capture.pcap".toList = .other [1] ∧
    ∃ records, x.world.writer.lib.files "out.pcap".toList = .pcap records ∧
      Recorded records [oneByteBuffer 7 false] := by
  have spelled : beastieOptionTable.Spells false writeLine.tail
      [.operand .write "out.pcap".toList, .operand .maxBytes "0".toList] :=
    getoptLong_eq_iff.1 ⟨rfl, by decide⟩
  have main : ∃ config, beastieMain false writeLine = .capturing config ∧
    config.maxCaptureBytes = 0 := ⟨_, rfl, rfl⟩
  obtain ⟨config, main, unlimited⟩ := main
  obtain ⟨s, w, tr, run, _, arrived, taken⟩ :=
    undisturbed_return (eachPoll [oneByteBuffer 7 false]) (0, 0) 0 rfl rfl (by decide) Guard.free
      (fun _ _ _ => trivial) (fun _ _ _ _ => trivial) config unlimited (fun _ => .other [1]) 1
  have one : written tr = [oneByteBuffer 7 false] := taken
  obtain ⟨_, _, others, _, own, _⟩ := beastie_process spelled main run
  obtain ⟨records, filed, recorded⟩ := own (by decide) (by simp [one])
  exact ⟨config, _, main, run, others _ (by decide), records, filed, one ▸ recorded⟩

end BeastieBoy
