import BeastieBoy.Interact.Handles
import BeastieBoy.PcapWriter

/-!
# The sessions of the writer

The three functions of the writer called in any order, over a libpcap that may
fail any open. Each call is a step of a machine that holds both handles or
neither; what it asks of libpcap is the label of the step.
-/

namespace BeastieBoy

open CLib Interact

/-- A call of one of the three functions, with what it meets. -/
inductive WriterCall where
  | write (env : WriteConditions) (filename : CString) (data : List UInt8)
  | flush (result : Int)
  | close (result : Int)

/-- The return value, 0 where there is none, and the writer. -/
def WriterCall.run : WriterCall → PcapWriter → Int × PcapWriter
  | .write env filename data, w => writePcapPacket env filename data w
  | .flush result, w => flushPcapWriter result w
  | .close result, w => (0, closePcapWriter result w)

/-- A call, what it returned, and what it asked of libpcap. -/
structure WriterStep where
  call : WriterCall
  rc : Int
  made : List PcapCall

def WriterCall.step (c : WriterCall) (w : PcapWriter) : WriterStep :=
  ⟨c, (c.run w).1, (c.run w).2.lib.calls.drop w.lib.calls.length⟩

namespace PcapWriter

/-- The writer behind these calls. -/
def after (w : PcapWriter) (calls : List WriterCall) : PcapWriter :=
  calls.foldl (fun w c => (c.run w).2) w

def steps : PcapWriter → List WriterCall → List WriterStep
  | _, [] => []
  | w, c :: calls => c.step w :: (c.run w).2.steps calls

end PcapWriter

/-! ## The machine -/

/-- The handles that are held, and the next one that libpcap gives out. -/
structure WriterSession where
  held : Option (Nat × PcapDumper)
  next : Nat

inductive SessionStep : WriterSession → WriterStep → WriterSession → Prop
  | noPcap (env : WriteConditions) (filename : CString) (data : List UInt8) (next : Nat) :
      SessionStep ⟨none, next⟩ ⟨.write env filename data, -1, [.openDead none]⟩ ⟨none, next⟩
  | noDumper (env : WriteConditions) (filename : CString) (data : List UInt8) (next : Nat) :
      SessionStep ⟨none, next⟩
        ⟨.write env filename data, -1,
          [.openDead (some next), .dumpOpen next filename none, .close next]⟩
        ⟨none, next + 1⟩
  | opened (env : WriteConditions) (filename : CString) (data : List UInt8) (next : Nat) :
      SessionStep ⟨none, next⟩
        ⟨.write env filename data, 0,
          [.openDead (some next), .dumpOpen next filename (some ⟨next + 1, filename⟩),
            .dump (some ⟨next + 1, filename⟩) (packetRecord env.timeOfDay data)]⟩
        ⟨some (next, ⟨next + 1, filename⟩), next + 2⟩
  | written (env : WriteConditions) (filename : CString) (data : List UInt8) (p : Nat)
      (d : PcapDumper) (next : Nat) :
      SessionStep ⟨some (p, d), next⟩
        ⟨.write env filename data, 0, [.dump (some d) (packetRecord env.timeOfDay data)]⟩
          ⟨some (p, d), next⟩
  | flushed (result : Int) (p : Nat) (d : PcapDumper) (next : Nat) :
      SessionStep ⟨some (p, d), next⟩ ⟨.flush result, result, [.dumpFlush d result]⟩
        ⟨some (p, d), next⟩
  | flushedNothing (result : Int) (next : Nat) :
      SessionStep ⟨none, next⟩ ⟨.flush result, 0, []⟩ ⟨none, next⟩
  | closed (result : Int) (p : Nat) (d : PcapDumper) (next : Nat) :
      SessionStep ⟨some (p, d), next⟩
        ⟨.close result, 0, [.dumpFlush d result, .dumpClose d, .close p]⟩ ⟨none, next⟩
  | closedNothing (result : Int) (next : Nat) :
      SessionStep ⟨none, next⟩ ⟨.close result, 0, []⟩ ⟨none, next⟩

/-- The static variables show what is held. -/
structure PcapWriter.Shows (w : PcapWriter) (s : WriterSession) : Prop where
  pcap : w.pcap = s.held.map Prod.fst
  dumper : w.dumper = s.held.map Prod.snd
  initialized : w.initialized = s.held.isSome
  next : w.lib.nextHandle = s.next

theorem PcapWriter.Shows.eq {w : PcapWriter} {s : WriterSession} (h : w.Shows s) :
    ∃ held lib, s = ⟨held, lib.nextHandle⟩ ∧
      w = ⟨held.map Prod.fst, held.map Prod.snd, held.isSome, lib⟩ := by
  obtain ⟨pcap, dumper, initialized, next⟩ := h
  refine ⟨s.held, w.lib, ?_, ?_⟩
  · rw [next]
  · rw [← pcap, ← dumper, ← initialized]

theorem dump_calls (dumper : Option PcapDumper) (record : PcapRecord) (lib : Libpcap) :
    (lib.dump dumper record).calls = lib.calls ++ [.dump dumper record] := by
  unfold Libpcap.dump
  dsimp only
  split
  · split <;> rfl
  · rfl

theorem dump_nextHandle (dumper : Option PcapDumper) (record : PcapRecord) (lib : Libpcap) :
    (lib.dump dumper record).nextHandle = lib.nextHandle := by
  unfold Libpcap.dump
  dsimp only
  split
  · split <;> rfl
  · rfl

theorem one_by_one (made : List PcapCall) (a b c : PcapCall) :
    made ++ [a] ++ [b] ++ [c] = made ++ [a, b, c] := by simp

/-- A call that goes like a step of the machine. -/
def Takes (w : PcapWriter) (s : WriterSession) (c : WriterCall) : Prop :=
  ∃ made s', SessionStep s ⟨c, (c.run w).1, made⟩ s' ∧ (c.run w).2.Shows s' ∧
    (c.run w).2.lib.calls = w.lib.calls ++ made

section
variable {w : PcapWriter} {s : WriterSession} (h : w.Shows s)
include h

theorem write_takes (env : WriteConditions) (filename : CString) (data : List UInt8) :
    Takes w s (.write env filename data) := by
  obtain ⟨held, lib, rfl, rfl⟩ := h.eq
  cases held with
  | some both =>
    obtain ⟨p, d⟩ := both
    exact ⟨_, _, .written env filename data p d _, ⟨rfl, rfl, rfl, dump_nextHandle _ _ _⟩,
      dump_calls _ _ _⟩
  | none =>
    obtain ⟨openDead, dumpOpen, timeOfDay⟩ := env
    cases openDead with
    | false => exact ⟨_, _, .noPcap _ filename data _, ⟨rfl, rfl, rfl, rfl⟩, rfl⟩
    | true =>
      cases dumpOpen with
      | failed left =>
        exact ⟨_, _, .noDumper _ filename data _, ⟨rfl, rfl, rfl, rfl⟩, one_by_one _ _ _ _⟩
      | opened =>
        exact ⟨_, _, .opened _ filename data _, ⟨rfl, rfl, rfl, dump_nextHandle _ _ _⟩,
          (dump_calls _ _ _).trans (one_by_one _ _ _ _)⟩

theorem flush_takes (result : Int) : Takes w s (.flush result) := by
  obtain ⟨held, lib, rfl, rfl⟩ := h.eq
  cases held with
  | some both => exact ⟨_, _, .flushed result both.1 both.2 _, ⟨rfl, rfl, rfl, rfl⟩, rfl⟩
  | none => exact ⟨_, _, .flushedNothing result _, ⟨rfl, rfl, rfl, rfl⟩, (List.append_nil _).symm⟩

theorem close_takes (result : Int) : Takes w s (.close result) := by
  obtain ⟨held, lib, rfl, rfl⟩ := h.eq
  cases held with
  | some both =>
    obtain ⟨p, d⟩ := both
    exact ⟨_, _, .closed result p d _, ⟨rfl, rfl, rfl, rfl⟩, one_by_one _ _ _ _⟩
  | none => exact ⟨_, _, .closedNothing result _, ⟨rfl, rfl, rfl, rfl⟩, (List.append_nil _).symm⟩

/-- **Every call is a step of the machine.** -/
theorem run_step (c : WriterCall) : ∃ s', SessionStep s (c.step w) s' ∧ (c.run w).2.Shows s' ∧
    (c.run w).2.lib.calls = w.lib.calls ++ (c.step w).made := by
  have takes : Takes w s c := by
    cases c with
    | write env filename data => exact write_takes h env filename data
    | flush result => exact flush_takes h result
    | close result => exact close_takes h result
  obtain ⟨made, s', step, shows_it, calls⟩ := takes
  have labelled : c.step w = ⟨c, (c.run w).1, made⟩ := by
    rw [WriterCall.step, calls, List.drop_left]
  rw [labelled]
  exact ⟨s', step, shows_it, calls⟩

end

/-- The steps of a run. -/
inductive Session : WriterSession → List WriterStep → WriterSession → Prop
  | nil (s : WriterSession) : Session s [] s
  | cons {s s' s'' : WriterSession} {step : WriterStep} {steps : List WriterStep}
      (first : SessionStep s step s')
      (rest : Session s' steps s'') : Session s (step :: steps) s''

theorem steps_session {w : PcapWriter} {s : WriterSession} (h : w.Shows s)
    (calls : List WriterCall) :
    ∃ s', Session s (w.steps calls) s' ∧ (w.after calls).Shows s' ∧
      (w.after calls).lib.calls = w.lib.calls ++ (w.steps calls).flatMap WriterStep.made := by
  induction calls generalizing w s with
  | nil => exact ⟨s, .nil s, h, by simp [PcapWriter.after, PcapWriter.steps]⟩
  | cons c calls ih =>
    obtain ⟨s₁, step, shows_it, made⟩ := run_step h c
    obtain ⟨s', rest, shows_end, all⟩ := ih shows_it
    refine ⟨s', .cons step rest, shows_end, ?_⟩
    rw [PcapWriter.after, List.foldl_cons, ← PcapWriter.after, all, made, List.append_assoc]
    rfl

/-! ## Handles -/

def pcapHandles : HandleKind PcapCall Nat where
  acquires
    | .openDead (some p) => some p
    | _ => none
  releases
    | .close p => some p
    | _ => none
  uses
    | .dumpOpen p _ _ => some (some p)
    | _ => none

def dumperHandles : HandleKind PcapCall PcapDumper where
  acquires
    | .dumpOpen _ _ (some d) => some d
    | _ => none
  releases
    | .dumpClose d => some d
    | _ => none
  uses
    | .dump d _ => some d
    | .dumpFlush d _ => some (some d)
    | _ => none

/-- The handles of the kind that were given out have numbers below `next`. -/
def GivenBelow {H : Type} (kind : HandleKind PcapCall H) (number : H → Nat) (next : Nat)
    (made : List PcapCall) : Prop :=
  ∀ e ∈ made, ∀ x, kind.acquires e = some x → number x < next

theorem GivenBelow.append {H : Type} {kind : HandleKind PcapCall H} {number : H → Nat}
    {next next' : Nat}
    {made made' : List PcapCall} (h : GivenBelow kind number next made) (later : next ≤ next')
    (new : GivenBelow kind number next' made') : GivenBelow kind number next' (made ++ made') := by
  intro e he x acquired
  rcases List.mem_append.1 he with old | now
  · exact Nat.lt_of_lt_of_le (h e old x acquired) later
  · exact new e now x acquired

theorem GivenBelow.fresh {H : Type} {kind : HandleKind PcapCall H} {number : H → Nat} {next : Nat}
    {made : List PcapCall} (h : GivenBelow kind number next made) {x : H} (new : next ≤ number x) :
    ∀ e ∈ made, kind.acquires e ≠ some x := by
  intro e he acquired
  exact absurd (h e he x acquired) (Nat.not_lt.2 new)

/-- What was asked of libpcap so far keeps to both kinds of handles, and they
were given out in order. -/
structure Tidy (made : List PcapCall) (s : WriterSession) : Prop where
  pcaps : Keeps pcapHandles made (s.held.map Prod.fst)
  dumpers : Keeps dumperHandles made (s.held.map Prod.snd)
  pcaps_given : GivenBelow pcapHandles (fun p => p) s.next made
  dumpers_given : GivenBelow dumperHandles PcapDumper.id s.next made

theorem tidy_start : Tidy [] ⟨none, 0⟩ :=
  ⟨.start, .start, fun _ he => absurd he List.not_mem_nil, fun _ he => absurd he List.not_mem_nil⟩

theorem given_step {s s' : WriterSession} {step : WriterStep} (hstep : SessionStep s step s') :
    s.next ≤ s'.next ∧ GivenBelow pcapHandles (fun p => p) s'.next step.made ∧
      GivenBelow dumperHandles PcapDumper.id s'.next step.made := by
  cases hstep <;> simp [GivenBelow, pcapHandles, dumperHandles]

theorem Tidy.step {made : List PcapCall} {s s' : WriterSession} {step : WriterStep}
    (h : Tidy made s) (hstep : SessionStep s step s') : Tidy (made ++ step.made) s' := by
  obtain ⟨pcaps, dumpers, pcaps_given, dumpers_given⟩ := h
  obtain ⟨later, new_pcaps, new_dumpers⟩ := given_step hstep
  suffices keeps : Keeps pcapHandles (made ++ step.made) (s'.held.map Prod.fst) ∧
      Keeps dumperHandles (made ++ step.made) (s'.held.map Prod.snd) from
    ⟨keeps.1, keeps.2, pcaps_given.append later new_pcaps, dumpers_given.append later new_dumpers⟩
  cases hstep with
  | noPcap env filename data next => exact ⟨pcaps.other rfl rfl rfl, dumpers.other rfl rfl rfl⟩
  | noDumper env filename data next =>
    have opened : Keeps pcapHandles (made ++ [.openDead (some next)]) (some next) :=
      pcaps.acquire rfl (pcaps_given.fresh (Nat.le_refl _)) rfl rfl
    rw [← one_by_one]
    exact ⟨(opened.use rfl rfl rfl).release rfl rfl rfl,
      ((dumpers.other rfl rfl rfl).other rfl rfl rfl).other rfl rfl rfl⟩
  | opened env filename data next =>
    have opened : Keeps pcapHandles (made ++ [.openDead (some next)]) (some next) :=
      pcaps.acquire rfl (pcaps_given.fresh (Nat.le_refl _)) rfl rfl
    have before : GivenBelow dumperHandles PcapDumper.id (next + 1)
      (made ++ [.openDead (some next)]) :=
      dumpers_given.append (Nat.le_succ _) (by simp [GivenBelow, dumperHandles])
    have dumping : Keeps dumperHandles (made ++ [.openDead (some next)] ++
        [.dumpOpen next filename (some ⟨next + 1, filename⟩)]) (some ⟨next + 1, filename⟩) :=
      (dumpers.other rfl rfl rfl).acquire rfl (before.fresh (Nat.le_refl _)) rfl rfl
    rw [← one_by_one]
    exact ⟨(opened.use rfl rfl rfl).other rfl rfl rfl, dumping.use rfl rfl rfl⟩
  | written env filename data p d next => exact ⟨pcaps.other rfl rfl rfl, dumpers.use rfl rfl rfl⟩
  | flushed result p d next => exact ⟨pcaps.other rfl rfl rfl, dumpers.use rfl rfl rfl⟩
  | closed result p d next =>
    rw [← one_by_one]
    exact ⟨((pcaps.other rfl rfl rfl).other rfl rfl rfl).release rfl rfl rfl,
      ((dumpers.use rfl rfl rfl).release rfl rfl rfl).other rfl rfl rfl⟩
  | flushedNothing result next | closedNothing result next =>
    rw [List.append_nil]
    exact ⟨pcaps, dumpers⟩

theorem Tidy.session {made : List PcapCall} {s s' : WriterSession} {steps : List WriterStep}
    (h : Tidy made s)
    (run : Session s steps s') : Tidy (made ++ steps.flatMap WriterStep.made) s' := by
  induction run generalizing made with
  | nil s => simpa using h
  | cons first _ ih => simpa using ih (h.step first)

/-! ## Records -/

/-- The record of a write that returned 0. -/
def WriterStep.accepted : WriterStep → Option PcapRecord
  | ⟨.write env _ data, 0, _⟩ => some (packetRecord env.timeOfDay data)
  | _ => none

def PcapCall.isDump : PcapCall → Bool
  | .dump .. => true
  | _ => false

/-- What was handed to `pcap_dump`. -/
def dumpsOf (steps : List WriterStep) : List PcapCall :=
  (steps.flatMap WriterStep.made).filter PcapCall.isDump

def WriterStep.Opens (step : WriterStep) : Prop :=
  ∃ p name d, PcapCall.dumpOpen p name (some d) ∈ step.made

/-- No dumper is held but `d`. -/
def WriterSession.NoOther (s : WriterSession) (d : PcapDumper) : Prop :=
  s.held = none ∨ ∃ p, s.held = some (p, d)

theorem SessionStep.records {s s' : WriterSession} {step : WriterStep} {d : PcapDumper}
    (h : SessionStep s step s') (alone : s.NoOther d) (opens : ¬ step.Opens) :
    step.made.filter PcapCall.isDump = step.accepted.toList.map (PcapCall.dump (some d)) ∧
    s'.NoOther d := by
  cases h with
  | noPcap env filename data next => exact ⟨rfl, .inl rfl⟩
  | noDumper env filename data next => exact ⟨rfl, .inl rfl⟩
  | opened env filename data next =>
    exact absurd ⟨next, filename, _, List.mem_cons_of_mem _ List.mem_cons_self⟩ opens
  | written env filename data p d' next =>
    rcases alone with idle | ⟨p', held⟩
    · cases idle
    · obtain ⟨rfl, rfl⟩ := Prod.mk.inj (Option.some.inj held)
      exact ⟨rfl, .inr ⟨p, rfl⟩⟩
  | flushed result p d' next => exact ⟨rfl, alone⟩
  | flushedNothing result next => exact ⟨rfl, .inl rfl⟩
  | closed result p d' next => exact ⟨rfl, .inl rfl⟩
  | closedNothing result next => exact ⟨rfl, .inl rfl⟩

theorem dumpsOf_cons (step : WriterStep) (steps : List WriterStep) :
    dumpsOf (step :: steps) = step.made.filter PcapCall.isDump ++ dumpsOf steps := by
  simp [dumpsOf]

theorem filterMap_accepted_cons (step : WriterStep) (steps : List WriterStep) :
    (step :: steps).filterMap WriterStep.accepted =
      step.accepted.toList ++ steps.filterMap WriterStep.accepted := by
  cases h : step.accepted <;> simp [h]

/-- Without another successful open only the packets of successful writes are
dumped, to the dumper that was held at first. -/
theorem Session.records {s s' : WriterSession} {steps : List WriterStep} {d : PcapDumper}
    (run : Session s steps s') (alone : s.NoOther d) (opens : ∀ step ∈ steps, ¬ step.Opens) :
    dumpsOf steps = (steps.filterMap WriterStep.accepted).map (PcapCall.dump (some d)) := by
  induction run with
  | nil s => rfl
  | @cons s s₁ s' step steps first rest ih =>
    obtain ⟨now, later⟩ := List.forall_mem_cons.1 opens
    obtain ⟨dumped, alone'⟩ := first.records alone now
    rw [dumpsOf_cons, filterMap_accepted_cons, List.map_append, dumped, ih alone' later]

/-- A step that opens is a write that returns 0, on the file it names. -/
theorem SessionStep.opening {s s' : WriterSession} {step : WriterStep} (h : SessionStep s step s')
    {p : Nat}
    {name : CString} {d : PcapDumper} (opens : PcapCall.dumpOpen p name (some d) ∈ step.made) :
    (∃ env data, step.call = .write env name data) ∧ step.rc = 0 ∧ d.file = name ∧ s'.NoOther d ∧
      step.made.filter PcapCall.isDump = step.accepted.toList.map (PcapCall.dump (some d)) := by
  cases h with
  | opened env filename data next =>
    obtain ⟨rfl, rfl, rfl⟩ : p = next ∧ name = filename ∧ d = ⟨next + 1, filename⟩ := by
      simpa using opens
    exact ⟨⟨env, data, rfl⟩, rfl, rfl, .inr ⟨p, rfl⟩, rfl⟩
  | _ => simp at opens

theorem Session.split {s s' : WriterSession} {past steps : List WriterStep} {step : WriterStep}
    (run : Session s (past ++ step :: steps) s') :
    ∃ s₁ s₂, SessionStep s₁ step s₂ ∧ Session s₂ steps s' := by
  induction past generalizing s with
  | nil => cases run with | cons first rest => exact ⟨_, _, first, rest⟩
  | cons earlier past ih => cases run with | cons first rest => exact ih rest

/-! ## Any calls -/

theorem initial_shows (files : CString → FileContent) :
    (PcapWriter.initial files).Shows ⟨none, 0⟩ :=
  ⟨rfl, rfl, rfl, rfl⟩

theorem count_close (p : Nat) (made : List PcapCall) :
    Keeps.returned pcapHandles p made = made.count (.close p) := by
  apply List.countP_congr
  intro c _
  cases c <;> simp [pcapHandles]

theorem count_dumpClose (d : PcapDumper) (made : List PcapCall) :
    Keeps.returned dumperHandles d made = made.count (.dumpClose d) := by
  apply List.countP_congr
  intro c _
  cases c <;> simp [dumperHandles]

theorem acquires_dumper_iff {c : PcapCall} {d : PcapDumper} :
    dumperHandles.acquires c = some d ↔ ∃ p name, c = .dumpOpen p name (some d) := by
  constructor
  · intro acquired
    cases c with
    | dumpOpen p name result =>
      cases result with
      | some d' => exact ⟨p, name, by rw [Option.some.inj acquired]⟩
      | none => cases acquired
    | _ => cases acquired
  · rintro ⟨p, name, rfl⟩
    rfl

/-- **The writer under any calls.** Behind each of them it is initialized with
both handles, or not and with neither; every handle that was opened was closed
once or is the one still held; libpcap never sees a dumper that is not held; and
since the last open the dumper on its file got the packets of the writes that
returned 0, one after the other. -/
theorem pcap_sessions (files : CString → FileContent) (calls : List WriterCall) :
    let w := (PcapWriter.initial files).after calls
    let steps := (PcapWriter.initial files).steps calls
    let made := w.lib.calls
    made = steps.flatMap WriterStep.made ∧
    (w.initialized = true ∧ w.pcap.isSome = true ∧ w.dumper.isSome = true ∨
      w.initialized = false ∧ w.pcap = none ∧ w.dumper = none) ∧
    (∀ p, .openDead (some p) ∈ made → made.count (.close p) = if w.pcap = some p then 0 else 1) ∧
    (∀ p name d, .dumpOpen p name (some d) ∈ made →
      made.count (.dumpClose d) = if w.dumper = some d then 0 else 1) ∧
    (∀ before c after, made = before ++ c :: after → ∀ o, dumperHandles.uses c = some o →
      ∃ d, o = some d ∧ (∃ p name, .dumpOpen p name (some d) ∈ before) ∧ .dumpClose d ∉ before) ∧
    ∀ past opening since, steps = past ++ opening :: since →
      ∀ p name d, .dumpOpen p name (some d) ∈ opening.made → (∀ step ∈ since, ¬ step.Opens) →
        (∃ env data, opening.call = .write env name data) ∧ opening.rc = 0 ∧ d.file = name ∧
        dumpsOf (opening :: since) =
          ((opening :: since).filterMap WriterStep.accepted).map (PcapCall.dump (some d)) := by
  obtain ⟨s, run, shows_it, made⟩ := steps_session (initial_shows files) calls
  have tidy := tidy_start.session run
  have started : (PcapWriter.initial files).lib.calls = [] := rfl
  rw [started] at made
  rw [← made] at tidy
  dsimp only
  refine ⟨made, ?_, ?_, ?_, ?_, ?_⟩
  · rw [shows_it.pcap, shows_it.dumper, shows_it.initialized]
    cases s.held with
    | none => exact .inr ⟨rfl, rfl, rfl⟩
    | some both => exact .inl ⟨rfl, rfl, rfl⟩
  · intro p opened
    rw [← count_close, shows_it.pcap]
    exact tidy.pcaps.returned_of_given ⟨_, opened, rfl⟩
  · intro p name d opened
    rw [← count_dumpClose, shows_it.dumper]
    exact tidy.dumpers.returned_of_given ⟨_, opened, rfl⟩
  · intro before c after split_up o used
    obtain ⟨d, rfl, held⟩ := tidy.dumpers.used split_up used
    obtain ⟨⟨e, he, acquired⟩, kept⟩ := held.given_of_held
    obtain ⟨p, name, rfl⟩ := acquires_dumper_iff.1 acquired
    exact ⟨d, rfl, ⟨p, name, he⟩, fun closed => kept _ closed rfl⟩
  · intro past opening since split_up p name d opens none_since
    rw [split_up] at run
    obtain ⟨s₁, s₂, first, rest⟩ := run.split
    obtain ⟨written, succeeded, file, alone, dumped⟩ := first.opening opens
    refine ⟨written, succeeded, file, ?_⟩
    rw [dumpsOf_cons, filterMap_accepted_cons, List.map_append, dumped,
      rest.records alone none_since]

/-- The first open fails, the second write opens `a.pcap`, and behind a close the
fourth opens `b.pcap`. -/
def reopening : List WriterCall :=
  [.write ⟨true, .failed .absent, (0, 0)⟩ "a.pcap".toList [1],
    .write ⟨true, .opened, (0, 1)⟩ "a.pcap".toList [2],
    .close 0,
    .write ⟨true, .opened, (0, 2)⟩ "b.pcap".toList [3],
    .write ⟨true, .opened, (0, 3)⟩ "c.pcap".toList [4]]

def reopeningSteps : List WriterStep := (PcapWriter.initial fun _ => .absent).steps reopening

theorem reopening_session :
    dumpsOf (reopeningSteps.drop 3) = [.dump (some ⟨4, "b.pcap".toList⟩) (packetRecord (0, 2) [3]),
        .dump (some ⟨4, "b.pcap".toList⟩) (packetRecord (0, 3) [4])] ∧
      ((PcapWriter.initial fun _ => .absent).after reopening).lib.calls.count
        (.dumpClose ⟨2, "a.pcap".toList⟩) = 1 := by
  obtain ⟨_, _, _, closed, _, records⟩ := pcap_sessions (fun _ => .absent) reopening
  have split_up : reopeningSteps = reopeningSteps.take 3 ++ reopeningSteps[3] ::
    reopeningSteps.drop 4 := rfl
  have opened : PcapCall.dumpOpen 3 "b.pcap".toList
    (some ⟨4, "b.pcap".toList⟩) ∈ reopeningSteps[3].made := by decide
  have last : reopeningSteps.drop 4 = [reopeningSteps[4]] := rfl
  have only_dumps : reopeningSteps[4].made =
    [.dump (some ⟨4, "b.pcap".toList⟩) (packetRecord (0, 3) [4])] := by decide
  refine ⟨(records _ _ _ split_up _ _ _ opened ?_).2.2.2, closed 1 "a.pcap".toList _ (by decide)⟩
  intro step there
  rw [last, List.mem_singleton] at there
  rw [there, WriterStep.Opens, only_dumps]
  simp

end BeastieBoy
