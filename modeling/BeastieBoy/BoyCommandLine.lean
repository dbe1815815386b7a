import BeastieBoy.BeastieOptions
import BeastieBoy.CliAccepts

/-!
# The command lines of `boy`

How each is refused, and that every option record that one gives is given by one
that is printed from it.
-/

namespace BeastieBoy

open CLib OptionTable

/-! ## How a command line is refused -/

/-- The message about an argument, in front of it and behind. -/
def boyComplaint : BoyOperand → String × String
  | .id => ("Invalid memif id: ", "\n")
  | .ifaceIdx => ("Invalid source interface index: ", "\n")
  | .logLevel => ("Invalid log level: ", "\n")
  | .memif => ("Invalid memif interface name: ", "\n")
  | .bufferSize => ("Invalid buffer size: ", "\n")
  | .device => ("Invalid device mode: ", " (expected both|rx|tx)\n")
  | .ringSize => ("Invalid ring size: ", "\n")
  | .socketId => ("Invalid socket id: ", "\n")
  | .unsetSpan => ("Invalid interface index: ", "\n")

/-- How the loop ends at this option. -/
def BoyRefused : BoyOpt → BoyCliExit → Prop
  | .flag flag, exit => flag = .help ∧ exit = .help
  | .operand operand optarg, exit =>
    ¬ ValidArgument operand optarg ∧
      exit = .failure ((boyComplaint operand).1.toList ++ optarg ++ (boyComplaint operand).2.toList)
  | .unknown, exit => exit = .usage

theorem parsedOr_bind_eq_error {α β : Type} {before behind : String} {optarg : CString}
    {parsed : Option α}
    {f : α → Except BoyCliExit β} (goes_on : ∀ a, ∃ b, f a = .ok b) {exit : BoyCliExit} :
    (parsedOr before optarg behind parsed >>= f) = .error exit ↔
      ¬ parsed.isSome = true ∧ exit = .failure (before.toList ++ optarg ++ behind.toList) := by
  cases parsed with
  | none =>
    constructor
    · intro refused
      cases refused
      exact ⟨nofun, rfl⟩
    · rintro ⟨_, rfl⟩
      rfl
  | some a =>
    obtain ⟨b, ok⟩ := goes_on a
    have unfolded : (parsedOr before optarg behind (some a) >>= f) = f a := rfl
    rw [unfolded, ok]
    exact iff_of_false nofun fun no => no.1 rfl

theorem step_eq_error_iff (s : BoyCliScan) (o : BoyOpt) (exit : BoyCliExit) :
    s.step o = .error exit ↔ BoyRefused o exit := by
  cases o with
  | unknown => exact ⟨fun h => by cases h; rfl, fun h => h ▸ rfl⟩
  | flag flag =>
    cases flag
    case help => exact ⟨fun h => by cases h; exact ⟨rfl, rfl⟩, fun h => h.2 ▸ rfl⟩
    all_goals exact iff_of_false nofun nofun
  | operand operand optarg =>
    cases operand
    all_goals exact parsedOr_bind_eq_error fun _ => ⟨_, rfl⟩

/-- An operand of `--set-span` without it. -/
def SpanOperandAlone (given : List BoyOpt) : Prop :=
  .flag .setSpan ∉ given ∧ (Present .ifaceIdx given ∨ Present .memif given ∨ Present .device given)

/-- `--set-span` without one of its operands. -/
def SpanOperandMissing (given : List BoyOpt) : Prop :=
  .flag .setSpan ∈ given ∧
    (¬ Present .ifaceIdx given ∨ ¬ Present .memif given ∨ ¬ Present .device given)

/-- An operand of `--create-memif` without it. -/
def MemifOperandAlone (given : List BoyOpt) : Prop :=
  .flag .createMemif ∉ given ∧
    (Present .id given ∨ Present .socketId given ∨ Present .ringSize given ∨
      Present .bufferSize given)

/-- How the tests behind the loop end, in their order. -/
def TestsRefuse (given : List BoyOpt) (exit : BoyCliExit) : Prop :=
  SpanOperandAlone given ∧
    exit = .failure "--iface-idx/--memif/--device require --set-span\n".toList ∨
  SpanOperandMissing given ∧
    exit = .failure "--set-span requires --iface-idx, --memif and --device\n".toList ∨
  ¬ SpanOperandAlone given ∧ ¬ SpanOperandMissing given ∧ MemifOperandAlone given ∧
    exit = .failure "--id/--socket-id/--ring-size/--buffer-size require --create-memif\n".toList

theorem BoyCliScan.Reads.check_eq_error_iff {s : BoyCliScan} {given : List BoyOpt}
    (h : s.Reads given) (exit : BoyCliExit) : s.check = .error exit ↔ TestsRefuse given exit := by
  have set_span : s.hasSetSpan = true ↔ .flag .setSpan ∈ given := by
    rw [h.hasSetSpan, any_isFlag_iff]
  have iface : s.hasSetSpanIface = true ↔ Present .ifaceIdx given := by
    rw [h.hasSetSpanIface, any_isOperand_iff]
  have memif : s.hasSetSpanMemif = true ↔ Present .memif given := by
    rw [h.hasSetSpanMemif, any_isOperand_iff]
  have device : s.hasSetSpanDevice = true ↔ Present .device given := by
    rw [h.hasSetSpanDevice, any_isOperand_iff]
  have create : s.hasCreateMemif = true ↔ .flag .createMemif ∈ given := by
    rw [h.hasCreateMemif, any_isFlag_iff]
  have operand := any_isMemifOperand_iff given
  rw [← h.hasCreateMemifOption] at operand
  unfold TestsRefuse SpanOperandAlone SpanOperandMissing MemifOperandAlone
  rw [← set_span, ← iface, ← memif, ← device, ← create, ← operand]
  unfold BoyCliScan.check
  split
  · rename_i alone
    constructor
    · intro refused
      cases refused
      exact .inl ⟨alone, rfl⟩
    · rintro (⟨_, rfl⟩ | ⟨there, _⟩ | ⟨no, _⟩)
      · rfl
      · exact absurd there.1 alone.1
      · exact absurd alone no
  · rename_i together
    split
    · rename_i missing
      constructor
      · intro refused
        cases refused
        exact .inr (.inl ⟨missing, rfl⟩)
      · rintro (⟨alone, _⟩ | ⟨_, rfl⟩ | ⟨_, no, _⟩)
        · exact absurd alone together
        · rfl
        · exact absurd missing no
    · rename_i whole
      split
      · rename_i memif_alone
        constructor
        · intro refused
          cases refused
          exact .inr (.inr ⟨together, whole, memif_alone, rfl⟩)
        · rintro (⟨alone, _⟩ | ⟨missing, _⟩ | ⟨_, _, _, rfl⟩)
          · exact absurd alone together
          · exact absurd missing whole
          · rfl
      · rename_i memif_together
        refine iff_of_false nofun ?_
        rintro (⟨alone, _⟩ | ⟨missing, _⟩ | ⟨_, _, memif_alone, _⟩)
        · exact together alone
        · exact whole missing
        · exact memif_together memif_alone

theorem boyReadOptions_eq_error_iff (given : List BoyOpt) (exit : BoyCliExit) :
    boyReadOptions given = .error exit ↔
      (∃ before o after, given = before ++ o :: after ∧ (∀ b ∈ before, Passes b) ∧
        BoyRefused o exit) ∨
        (∀ o ∈ given, Passes o) ∧ TestsRefuse given exit := by
  have loop := foldlM_eq_error_iff step_isOk_iff step_eq_error_iff .start given
  have all := BeastieBoy.foldlM_isOk_iff .start given
  unfold boyReadOptions
  cases ended : given.foldlM BoyCliScan.step .start with
  | error exit' =>
    rw [← loop, ended, ← all]
    have unfolded : (Except.error exit' >>= BoyCliScan.check) = .error exit' := rfl
    rw [unfolded]
    constructor
    · intro same
      cases same
      exact .inl rfl
    · rintro (same | ⟨⟨s, ok⟩, _⟩)
      · cases same
        rfl
      · rw [ended] at ok
        cases ok
  | ok s =>
    have reads := BoyCliScan.reads_start.foldlM ended
    rw [List.nil_append] at reads
    rw [← loop, ended]
    have unfolded : (Except.ok s >>= BoyCliScan.check) = s.check := rfl
    rw [unfolded, reads.check_eq_error_iff]
    constructor
    · exact fun refused => .inr ⟨all.1 ⟨s, ended⟩, refused⟩
    · rintro (no | ⟨_, refused⟩)
      · cases no
      · exact refused

/-- **Which command lines `boy` accepts, and how it refuses the others.** It accepts
the ways to write options of which none asks for help, whose arguments are valid and
that belong together. Otherwise the first option refused says how it ends, or, when
every option passes, the first test that fails. -/
theorem boy_command_lines (posixlyCorrect : Bool) (argv : List CString) :
    ((∃ options, boyParseCliOptions posixlyCorrect argv = .ok options) ↔
      ∃ given, boyOptionTable.Spells posixlyCorrect argv.tail given ∧ Acceptable given) ∧
    ∀ exit, boyParseCliOptions posixlyCorrect argv = .error exit ↔
      (∃ before o after, boyOptions posixlyCorrect argv = before ++ o :: after ∧
        (∀ b ∈ before, Passes b) ∧
        BoyRefused o exit) ∨
      (∀ o ∈ boyOptions posixlyCorrect argv, Passes o) ∧
    TestsRefuse (boyOptions posixlyCorrect argv) exit := by
  refine ⟨?_, boyReadOptions_eq_error_iff _⟩
  have accepted := accepted_iff (boyOptions posixlyCorrect argv)
  constructor
  · intro ok
    have acceptable := accepted.1 ok
    exact ⟨_, getoptLong_eq_iff.1 ⟨rfl, acceptable.no_unknown⟩, acceptable⟩
  · rintro ⟨given, spelled, acceptable⟩
    have same : boyOptions posixlyCorrect argv = given := spelled.getoptLong_eq
    rw [same] at accepted
    obtain ⟨options, ok⟩ := accepted.2 acceptable
    rw [← same] at ok
    exact ⟨options, ok⟩

/-! ## A command line for every record -/

def deviceModeText : BoySpanDeviceMode → CString
  | .rx => "rx".toList
  | .tx => "tx".toList
  | .both => "both".toList

@[simp] theorem boyParseDeviceMode_text (mode : BoySpanDeviceMode) :
    boyParseDeviceMode (deviceModeText mode) = some mode := by
  cases mode <;> rfl

def u32Text (n : UInt32) : CString := Nat.toDigits 10 n.toNat

@[simp] theorem ifIndexArgument_text (n : UInt32) : ifIndexArgument (u32Text n) = some n := by
  have read : boyParseIfIndex (u32Text n) = some n.toNat :=
    parseUnsigned_printed 0 0 (by decide) n.toNat_lt rfl
  rw [ifIndexArgument, read, Option.map_some, UInt32.ofNat_toNat]

@[simp] theorem u32Argument_text (n : UInt32) : u32Argument (u32Text n) = some n := by
  have small : n.toNat < 2 ^ 32 := n.toNat_lt
  have accepted : (!decide (n.toNat > 4294967295)) = true := by
    rw [Bool.not_eq_true', decide_eq_false_iff_not]
    omega
  have read : boyParseU32 (u32Text n) = some n.toNat :=
    parseUnsigned_printed 0 0 (by decide) small accepted
  rw [u32Argument, read, Option.map_some, UInt32.ofNat_toNat]

def boyLongName : OptionValue BoyFlag BoyOperand → CString
  | .noArgument .help => "help".toList
  | .noArgument .version => "version".toList
  | .noArgument .createMemif => "create-memif".toList
  | .noArgument .showMemif => "show-memif".toList
  | .noArgument .showPhy => "show-phy".toList
  | .noArgument .showSpan => "show-span".toList
  | .noArgument .setSpan => "set-span".toList
  | .noArgument .showVpp => "show-vpp".toList
  | .requiredArgument .id => "id".toList
  | .requiredArgument .ifaceIdx => "iface-idx".toList
  | .requiredArgument .logLevel => "log-level".toList
  | .requiredArgument .memif => "memif".toList
  | .requiredArgument .bufferSize => "buffer-size".toList
  | .requiredArgument .device => "device".toList
  | .requiredArgument .ringSize => "ring-size".toList
  | .requiredArgument .socketId => "socket-id".toList
  | .requiredArgument .unsetSpan => "unset-span".toList

theorem naming_boyLongName : boyOptionTable.Naming boyLongName := by
  constructor
  all_goals
    rintro (flag | operand)
    · cases flag <;> decide
    · cases operand <;> decide

namespace BoyCliOptions

variable {options : BoyCliOptions}

/-- The options of `--set-span`, where there is a name. -/
def printedSpan (options : BoyCliOptions) : List BoyOpt :=
  match options.setSpanMemifName with
  | none => []
  | some name =>
    [.flag .setSpan, .operand .ifaceIdx (u32Text options.setSpanIfIndex), .operand .memif name,
      .operand .device (deviceModeText options.setSpanDeviceMode)]

def printedMemif (options : BoyCliOptions) : List BoyOpt :=
  [.flag .createMemif, .operand .id (u32Text options.memifCreate.id),
    .operand .socketId (u32Text options.memifCreate.socketId),
    .operand .ringSize (u32Text options.memifCreate.ringSize),
    .operand .bufferSize (u32Text options.memifCreate.bufferSize)]

/-- The action that selects the mode, where `--unset-span` does not already. -/
def printedMode : BoyMode → List BoyOpt
  | .showVersion => [.flag .showVpp]
  | .showSpan => [.flag .showSpan]
  | .showMemif => [.flag .showMemif]
  | .unsetSpan => []
  | .setSpan => [.flag .setSpan]
  | .createMemif => [.flag .createMemif]
  | .showPhy => [.flag .showPhy]
  | .showCodeVersion => [.flag .version]

/-- Options that give the record: those of every action, and the action last. -/
def printed (options : BoyCliOptions) : List BoyOpt :=
  [.operand .logLevel (logLevelText options.logLevel)] ++ options.printedMemif ++
    options.printedSpan ++
    [.operand .unsetSpan (u32Text options.unsetSpanIfIndex)] ++ printedMode options.mode

/-- The values of `--set-span` are the defaults, or there is a name. -/
def Sayable (options : BoyCliOptions) : Prop :=
  match options.setSpanMemifName with
  | none => options.mode ≠ .setSpan ∧ options.setSpanIfIndex = 0 ∧ options.setSpanDeviceMode = .both
  | some name => name ≠ []

theorem readFrom_printed (sayable : options.Sayable) : options.ReadFrom options.printed := by
  obtain ⟨mode, logLevel, unset, source, name, device, ⟨id, socketId, ringSize, bufferSize⟩⟩ :=
    options
  have level := appParseLogLevel_text logLevel
  have side := boyParseDeviceMode_text device
  cases name with
  | none =>
    obtain ⟨other, rfl, rfl⟩ := sayable
    cases mode
    case setSpan => exact absurd rfl other
    all_goals exact ⟨rfl, level, ifIndexArgument_text unset, rfl, rfl, rfl, u32Argument_text id,
      u32Argument_text socketId, u32Argument_text ringSize, u32Argument_text bufferSize⟩
  | some name =>
    have taken : memifNameArgument name = some (some name) := if_neg sayable
    cases mode
    all_goals exact ⟨rfl, level, ifIndexArgument_text unset, ifIndexArgument_text source, taken,
      side, u32Argument_text id, u32Argument_text socketId, u32Argument_text ringSize,
      u32Argument_text bufferSize⟩

theorem passes_printedMode (mode : BoyMode) : ∀ o ∈ printedMode mode, Passes o := by
  cases mode
  all_goals simp [printedMode, Passes]

theorem passes_printed (sayable : options.Sayable) : ∀ o ∈ options.printed, Passes o := by
  have level : Passes (.operand .logLevel (logLevelText options.logLevel)) :=
    Option.isSome_of_eq_some (appParseLogLevel_text options.logLevel)
  have number (n : UInt32) : (u32Argument (u32Text n)).isSome = true :=
    Option.isSome_of_eq_some (u32Argument_text n)
  have index (n : UInt32) : (ifIndexArgument (u32Text n)).isSome = true :=
    Option.isSome_of_eq_some (ifIndexArgument_text n)
  have memif : ∀ o ∈ options.printedMemif, Passes o := by
    have create : BoyFlag.createMemif ≠ .help := by decide
    simp only [printedMemif, List.forall_mem_cons]
    exact ⟨create, number _, number _, number _, number _, by simp⟩
  have span : ∀ o ∈ options.printedSpan, Passes o := by
    unfold printedSpan
    unfold Sayable at sayable
    cases name : options.setSpanMemifName with
    | none => simp
    | some name' =>
      rw [name] at sayable
      have taken : (memifNameArgument name').isSome = true := by
        rw [memifNameArgument, if_neg sayable]
        rfl
      have set : BoyFlag.setSpan ≠ .help := by decide
      simp only [List.forall_mem_cons]
      exact ⟨set, index _, taken, Option.isSome_of_eq_some (boyParseDeviceMode_text _), by simp⟩
  unfold printed
  simp only [List.forall_mem_append, List.forall_mem_singleton]
  exact ⟨⟨⟨⟨level, memif⟩, span⟩, index _⟩, passes_printedMode _⟩

/-- Behind the options of `--set-span` there is none of its operands. -/
theorem present_printed_iff (options : BoyCliOptions) {operand : BoyOperand}
    (own : operand = .ifaceIdx ∨ operand = .memif ∨ operand = .device) :
    Present operand options.printed ↔ options.setSpanMemifName.isSome = true := by
  have elsewhere (optarg : CString) : .operand operand optarg ∈ options.printed ↔
      .operand operand optarg ∈ options.printedSpan := by
    have mode : .operand operand optarg ∉ printedMode options.mode := by
      cases options.mode
      all_goals simp [printedMode]
    rcases own with rfl | rfl | rfl
    all_goals simp [printed, printedMemif, mode]
  simp only [Present, elsewhere, printedSpan]
  cases options.setSpanMemifName with
  | none => simp
  | some name =>
    rcases own with rfl | rfl | rfl
    all_goals simp

theorem acceptable_printed (sayable : options.Sayable) : Acceptable options.printed := by
  obtain ⟨no_help, no_unknown, valid⟩ := (BeastieBoy.passes_iff _).1 (passes_printed sayable)
  have iface := present_printed_iff options (.inl rfl)
  have memif := present_printed_iff options (.inr (.inl rfl))
  have device := present_printed_iff options (.inr (.inr rfl))
  refine ⟨no_help, no_unknown, valid, ?_, fun _ => by simp [printed, printedMemif]⟩
  rw [iface, memif, device]
  unfold Sayable at sayable
  cases name : options.setSpanMemifName with
  | some name' => exact .inl ⟨by simp [printed, printedSpan, name], rfl, rfl, rfl⟩
  | none =>
    rw [name] at sayable
    refine .inr ⟨?_, nofun, nofun, nofun⟩
    have other : .flag .setSpan ∉ printedMode options.mode := by
      cases mode : options.mode
      case setSpan => exact absurd mode sayable.1
      all_goals simp [printedMode]
    simp [printed, printedMemif, printedSpan, name, other]

theorem ReadFrom.unique {given : List BoyOpt} {options' : BoyCliOptions}
    (h : options.ReadFrom given) (h' : options'.ReadFrom given) : options = options' := by
  obtain ⟨mode, logLevel, unset, source, name, device, ⟨id, socketId, ringSize, bufferSize⟩⟩ :=
    options
  obtain ⟨mode', logLevel', unset', source', name', device',
    ⟨id', socketId', ringSize', bufferSize'⟩⟩ := options'
  obtain rfl : mode = mode' := h.mode.trans h'.mode.symm
  obtain rfl : logLevel = logLevel' := h.logLevel.unique h'.logLevel
  obtain rfl : unset = unset' := h.unsetSpanIfIndex.unique h'.unsetSpanIfIndex
  obtain rfl : source = source' := h.setSpanIfIndex.unique h'.setSpanIfIndex
  obtain rfl : name = name' := h.setSpanMemifName.unique h'.setSpanMemifName
  obtain rfl : device = device' := h.setSpanDeviceMode.unique h'.setSpanDeviceMode
  obtain rfl : id = id' := h.id.unique h'.id
  obtain rfl : socketId = socketId' := h.socketId.unique h'.socketId
  obtain rfl : ringSize = ringSize' := h.ringSize.unique h'.ringSize
  obtain rfl : bufferSize = bufferSize' := h.bufferSize.unique h'.bufferSize
  rfl

theorem lastArgument_of_absent {operand : BoyOperand} {given : List BoyOpt}
    (absent : ¬ Present operand given) :
    lastArgument operand given = none := by
  cases last : lastArgument operand given with
  | none => rfl
  | some optarg =>
    obtain ⟨o, there, own⟩ := List.mem_filterMap.1 (List.mem_of_getLast? last)
    cases o with
    | flag => cases own
    | unknown => cases own
    | operand operand' optarg' =>
      simp only [argumentOf] at own
      split at own
      · rename_i same
        exact absurd ⟨optarg', same ▸ there⟩ absent
      · cases own

/-- What a command line gives can be said again. -/
theorem ReadFrom.sayable {given : List BoyOpt} (h : options.ReadFrom given)
    (acceptable : Acceptable given) :
    options.Sayable := by
  have name_taken := h.setSpanMemifName
  unfold Sayable
  rcases acceptable.span with ⟨_, iface, memif, device⟩ | ⟨no_span, no_iface, no_memif, no_device⟩
  · obtain ⟨optarg, last⟩ := lastArgument_of_present memif
    rw [last] at name_taken
    simp only [Taken, memifNameArgument] at name_taken
    split at name_taken
    · cases name_taken
    · rename_i some_name
      rw [← Option.some.inj name_taken]
      exact some_name
  · rw [lastArgument_of_absent no_memif] at name_taken
    have source := h.setSpanIfIndex
    have side := h.setSpanDeviceMode
    rw [lastArgument_of_absent no_iface] at source
    rw [lastArgument_of_absent no_device] at side
    rw [show options.setSpanMemifName = none from name_taken]
    refine ⟨fun mode => ?_, source, side⟩
    have last := h.mode
    rw [mode] at last
    cases action : lastOf actionMode given with
    | none =>
      rw [action] at last
      cases last
    | some mode' =>
      rw [action] at last
      have same : BoyMode.setSpan = mode' := last
      rw [← same] at action
      exact no_span (setSpan_mem action)

end BoyCliOptions

def boyCommandLine (options : BoyCliOptions) : List CString :=
  "boy".toList :: spelling boyLongName options.printed

/-- **Printed and read back.** The records that some command line of `boy` gives are
those whose values of `--set-span` are the defaults or come with a name, and each is
given by the command line printed from it. -/
theorem boy_options_read_back (posixlyCorrect : Bool) (options : BoyCliOptions) :
    ((∃ argv, boyParseCliOptions posixlyCorrect argv = .ok options) ↔ options.Sayable) ∧
      (options.Sayable →
        boyParseCliOptions posixlyCorrect (boyCommandLine options) = .ok options) := by
  have read_back (sayable : options.Sayable) :
      boyParseCliOptions posixlyCorrect (boyCommandLine options) = .ok options := by
    have acceptable := BoyCliOptions.acceptable_printed sayable
    have same := (naming_boyLongName.spells posixlyCorrect acceptable.no_unknown).getoptLong_eq
    have unfolded : boyParseCliOptions posixlyCorrect (boyCommandLine options) =
      boyReadOptions options.printed :=
      congrArg boyReadOptions same
    obtain ⟨options', ok⟩ := (accepted_iff options.printed).2 acceptable
    obtain ⟨s, reads, checked⟩ := reads_of_accepted ok
    have read := reads.readFrom
    rw [← BoyCliScan.eq_of_check checked] at read
    rw [read.unique (BoyCliOptions.readFrom_printed sayable)] at ok
    exact unfolded.trans ok
  refine ⟨⟨?_, fun sayable => ⟨_, read_back sayable⟩⟩, read_back⟩
  rintro ⟨argv, ok⟩
  obtain ⟨s, reads, checked⟩ := reads_of_accepted ok
  have read := reads.readFrom
  rw [← BoyCliScan.eq_of_check checked] at read
  exact read.sayable ((accepted_iff _).1 ⟨options, ok⟩)

end BeastieBoy
