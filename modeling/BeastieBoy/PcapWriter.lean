import BeastieBoy.CLib.Numeral
import Mathlib.Data.List.Forall2

/-!
# The packet writer

`pcap_writer.c`: three static variables over libpcap. The file is opened by the
first write. libpcap creates or truncates the file and writes the header when it
opens it, appends one record per `pcap_dump`, and keeps the records when it
flushes and closes. What a failed open leaves in the file is not assumed.
-/

namespace BeastieBoy

open CLib

/-- A record of a pcap file: its header and the packet's bytes. -/
structure PcapRecord where
  ts : Nat × Nat
  caplen : Nat
  len : Nat
  data : List UInt8
  deriving DecidableEq

inductive FileContent where
  | absent
  | other (bytes : List UInt8)
  | pcap (records : List PcapRecord)
  deriving DecidableEq

structure PcapDumper where
  id : Nat
  file : CString
  deriving DecidableEq

/-- A call to libpcap with its result. -/
inductive PcapCall where
  | openDead (result : Option Nat)
  | dumpOpen (pcap : Nat) (filename : CString) (result : Option PcapDumper)
  | dump (dumper : Option PcapDumper) (record : PcapRecord)
  | dumpFlush (dumper : PcapDumper) (result : Int)
  | dumpClose (dumper : PcapDumper)
  | close (pcap : Nat)
  deriving DecidableEq

structure Libpcap where
  files : CString → FileContent
  nextHandle : Nat
  calls : List PcapCall

/-- The static variables `pcap`, `dumper` and `initialized`, and the library
under them. -/
structure PcapWriter where
  pcap : Option Nat
  dumper : Option PcapDumper
  initialized : Bool
  lib : Libpcap

/-- The file system decides how `pcap_dump_open` ends, and what a failed open
leaves in the file. -/
inductive DumpOpen where
  | opened
  | failed (left : FileContent)

/-- What a write meets: whether the two opens succeed, and the time of day. -/
structure WriteConditions where
  openDead : Bool
  dumpOpen : DumpOpen
  timeOfDay : Nat × Nat

namespace Libpcap

def setFile (lib : Libpcap) (filename : CString) (content : FileContent) : Libpcap :=
  { lib with files := fun f => if f = filename then content else lib.files f }

def openDead (ok : Bool) (lib : Libpcap) : Option Nat × Libpcap :=
  if ok then
    (some lib.nextHandle,
      { lib with
        nextHandle := lib.nextHandle + 1,
        calls := lib.calls ++ [.openDead (some lib.nextHandle)] })
  else (none, { lib with calls := lib.calls ++ [.openDead none] })

def dumpOpen (how : DumpOpen) (pcap : Nat) (filename : CString) (lib : Libpcap) :
    Option PcapDumper × Libpcap :=
  match how with
  | .opened =>
    let dumper : PcapDumper := ⟨lib.nextHandle, filename⟩
    let lib := lib.setFile filename (.pcap [])
    (some dumper,
      { lib with
        nextHandle := lib.nextHandle + 1,
        calls := lib.calls ++ [.dumpOpen pcap filename (some dumper)] })
  | .failed left =>
    let lib := lib.setFile filename left
    (none, { lib with calls := lib.calls ++ [.dumpOpen pcap filename none] })

/-- `pcap_dump` on a dumper; without one the call has no defined effect. -/
def dump (dumper : Option PcapDumper) (record : PcapRecord) (lib : Libpcap) : Libpcap :=
  let lib :=
    match dumper with
    | some d =>
      match lib.files d.file with
      | .pcap records => lib.setFile d.file (.pcap (records ++ [record]))
      | _ => lib
    | none => lib
  { lib with calls := lib.calls ++ [.dump dumper record] }

def dumpFlush (result : Int) (dumper : PcapDumper) (lib : Libpcap) : Int × Libpcap :=
  (result, { lib with calls := lib.calls ++ [.dumpFlush dumper result] })

def dumpClose (dumper : PcapDumper) (lib : Libpcap) : Libpcap :=
  { lib with calls := lib.calls ++ [.dumpClose dumper] }

def close (pcap : Nat) (lib : Libpcap) : Libpcap := { lib with calls := lib.calls ++ [.close pcap] }

end Libpcap

/-- The header fields are 32 bits wide. -/
def packetRecord (ts : Nat × Nat) (data : List UInt8) : PcapRecord :=
  ⟨ts, data.length % 2 ^ 32, data.length % 2 ^ 32, data⟩

/-- The `if (!initialized)` block: whether the writer is open behind it. -/
def openPcapWriter (env : WriteConditions) (filename : CString) (w : PcapWriter) :
    Bool × PcapWriter :=
  match w.lib.openDead env.openDead with
  | (none, lib) => (false, { w with pcap := none, lib := lib })
  | (some pcap, lib) =>
    match lib.dumpOpen env.dumpOpen pcap filename with
    | (none, lib) => (false, { w with pcap := none, dumper := none, lib := lib.close pcap })
    | (some dumper, lib) => (true, ⟨some pcap, some dumper, true, lib⟩)

def writePcapPacket (env : WriteConditions) (filename : CString) (data : List UInt8)
    (w : PcapWriter) : Int × PcapWriter :=
  let opened := if w.initialized then (true, w) else openPcapWriter env filename w
  if opened.1 then
    let record := packetRecord env.timeOfDay data
    (0, { opened.2 with lib := opened.2.lib.dump opened.2.dumper record })
  else (-1, opened.2)

/-- `result` is what `pcap_dump_flush` returns if it is called. -/
def flushPcapWriter (result : Int) (w : PcapWriter) : Int × PcapWriter :=
  match w.dumper with
  | some dumper =>
    if w.initialized then
      let flushed := w.lib.dumpFlush result dumper
      (flushed.1, { w with lib := flushed.2 })
    else (0, w)
  | none => (0, w)

def closePcapWriter (result : Int) (w : PcapWriter) : PcapWriter :=
  let lib :=
    match w.dumper with
    | some dumper => (w.lib.dumpFlush result dumper).2.dumpClose dumper
    | none => w.lib
  let lib :=
    match w.pcap with
    | some pcap => lib.close pcap
    | none => lib
  ⟨none, none, false, lib⟩

/-- The static variables as the process starts with them. -/
def PcapWriter.initial (files : CString → FileContent) : PcapWriter :=
  ⟨none, none, false, ⟨files, 0, []⟩⟩

/-- The records handed to `pcap_dump` so far. -/
def Libpcap.dumped (lib : Libpcap) : List PcapRecord :=
  lib.calls.filterMap fun c => match c with
    | .dump _ record => some record
    | _ => none

/-! ## The state of the writer -/

/-- Nothing is open. -/
structure PcapWriter.Idle (w : PcapWriter) : Prop where
  pcap : w.pcap = none
  dumper : w.dumper = none
  initialized : w.initialized = false

/-- The writer is open on `filename`, which holds `records`. -/
structure PcapWriter.OpenOn (w : PcapWriter) (filename : CString)
    (records : List PcapRecord) : Prop where
  pcap : ∃ p, w.pcap = some p
  dumper : ∃ d, w.dumper = some d ∧ d.file = filename
  initialized : w.initialized = true
  file : w.lib.files filename = .pcap records

/-- A write to an open writer appends one record and succeeds. -/
theorem write_open {w : PcapWriter} {filename : CString} {records : List PcapRecord}
    (h : w.OpenOn filename records) (env : WriteConditions) (name : CString) (data : List UInt8) :
    let r := writePcapPacket env name data w
    r.1 = 0 ∧ r.2.OpenOn filename (records ++ [packetRecord env.timeOfDay data]) ∧
      r.2.lib.dumped = w.lib.dumped ++ [packetRecord env.timeOfDay data] := by
  obtain ⟨⟨p, hp⟩, ⟨d, hd, hf⟩, hi, hfile⟩ := h
  subst hf
  simp only [writePcapPacket, hi, ↓reduceIte, hd, Libpcap.dump, hfile]
  refine ⟨trivial, ⟨⟨p, hp⟩, ⟨d, rfl, rfl⟩, rfl, by simp [Libpcap.setFile]⟩, ?_⟩
  simp [Libpcap.dumped, Libpcap.setFile]

/-- The first write opens the file and leaves one record in it, or fails and
leaves the writer idle. -/
theorem write_idle {w : PcapWriter} (h : w.Idle) (env : WriteConditions) (filename : CString)
    (data : List UInt8) :
    let r := writePcapPacket env filename data w
    r.1 = 0 ∧ r.2.OpenOn filename [packetRecord env.timeOfDay data] ∧
        r.2.lib.dumped = w.lib.dumped ++ [packetRecord env.timeOfDay data] ∨
      r.1 = -1 ∧ r.2.Idle ∧ r.2.lib.dumped = w.lib.dumped := by
  obtain ⟨hp, hd, hi⟩ := h
  cases hdead : env.openDead with
  | false =>
    simp only [writePcapPacket, hi, Bool.false_eq_true, ↓reduceIte, openPcapWriter,
      Libpcap.openDead,
      hdead]
    exact Or.inr ⟨trivial, ⟨rfl, hd, rfl⟩, by simp [Libpcap.dumped]⟩
  | true =>
    cases hopen : env.dumpOpen with
    | opened =>
      simp only [writePcapPacket, hi, Bool.false_eq_true, ↓reduceIte, openPcapWriter,
        Libpcap.openDead, hdead, Libpcap.dumpOpen, hopen, Libpcap.dump, Libpcap.setFile]
      refine Or.inl ⟨trivial, ⟨⟨_, rfl⟩, ⟨_, rfl, rfl⟩, rfl, ?_⟩, ?_⟩
      · simp
      · simp [Libpcap.dumped]
    | failed left =>
      simp only [writePcapPacket, hi, Bool.false_eq_true, ↓reduceIte, openPcapWriter,
        Libpcap.openDead, hdead, Libpcap.dumpOpen, hopen, Libpcap.close]
      exact Or.inr ⟨trivial, ⟨rfl, rfl, rfl⟩, by simp [Libpcap.dumped, Libpcap.setFile]⟩

/-- The same static variables over the same files, with the same records dumped. -/
structure PcapWriter.Same (w w' : PcapWriter) : Prop where
  pcap : w'.pcap = w.pcap
  dumper : w'.dumper = w.dumper
  initialized : w'.initialized = w.initialized
  files : w'.lib.files = w.lib.files
  dumped : w'.lib.dumped = w.lib.dumped

theorem PcapWriter.Same.refl (w : PcapWriter) : w.Same w := ⟨rfl, rfl, rfl, rfl, rfl⟩

theorem PcapWriter.Same.idle {w w' : PcapWriter} (h : w.Same w') (idle : w.Idle) : w'.Idle :=
  ⟨h.pcap.trans idle.pcap, h.dumper.trans idle.dumper, h.initialized.trans idle.initialized⟩

theorem PcapWriter.Same.openOn {w w' : PcapWriter} (h : w.Same w') {filename : CString}
    {records : List PcapRecord} (opened : w.OpenOn filename records) :
    w'.OpenOn filename records where
  pcap := h.pcap ▸ opened.pcap
  dumper := h.dumper ▸ opened.dumper
  initialized := h.initialized.trans opened.initialized
  file := h.files ▸ opened.file

theorem flush_same (result : Int) (w : PcapWriter) : w.Same (flushPcapWriter result w).2 := by
  unfold flushPcapWriter
  split
  · split
    · exact ⟨rfl, rfl, rfl, rfl, by simp [Libpcap.dumpFlush, Libpcap.dumped]⟩
    · exact .refl w
  · exact .refl w

/-- Closing keeps the files. -/
theorem close_same (result : Int) (w : PcapWriter) :
    (closePcapWriter result w).lib.files = w.lib.files ∧
      (closePcapWriter result w).lib.dumped = w.lib.dumped := by
  cases hd : w.dumper <;> cases hp : w.pcap <;>
    simp [closePcapWriter, hd, hp, Libpcap.dumpFlush, Libpcap.dumpClose, Libpcap.close,
      Libpcap.dumped]

end BeastieBoy
