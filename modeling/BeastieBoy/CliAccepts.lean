import BeastieBoy.CliReads

/-!
# Which options are accepted

The loop goes on behind every option but help, an unknown one, and one whose
argument its parser refuses; the tests behind the loop ask which options were
there at all. So the order of the options decides nothing but the values.
-/

namespace BeastieBoy

open CLib

/-- The parser of the option takes the argument. -/
def ValidArgument : BoyOperand → CString → Prop
  | .id, optarg => (u32Argument optarg).isSome
  | .ifaceIdx, optarg => (ifIndexArgument optarg).isSome
  | .logLevel, optarg => (appParseLogLevel optarg).isSome
  | .memif, optarg => (memifNameArgument optarg).isSome
  | .bufferSize, optarg => (u32Argument optarg).isSome
  | .device, optarg => (boyParseDeviceMode optarg).isSome
  | .ringSize, optarg => (u32Argument optarg).isSome
  | .socketId, optarg => (u32Argument optarg).isSome
  | .unsetSpan, optarg => (ifIndexArgument optarg).isSome

/-- The option is there, with whatever argument. -/
def Present (operand : BoyOperand) (given : List BoyOpt) : Prop :=
  ∃ optarg, .operand operand optarg ∈ given

/-- The options that belong together are there together. -/
structure Acceptable (given : List BoyOpt) : Prop where
  no_help : .flag .help ∉ given
  no_unknown : .unknown ∉ given
  valid : ∀ operand optarg, .operand operand optarg ∈ given → ValidArgument operand optarg
  span :
    .flag .setSpan ∈ given ∧
        Present .ifaceIdx given ∧ Present .memif given ∧ Present .device given ∨
      .flag .setSpan ∉ given ∧
        ¬ Present .ifaceIdx given ∧ ¬ Present .memif given ∧ ¬ Present .device given
  memif : Present .id given ∨ Present .socketId given ∨ Present .ringSize given ∨
    Present .bufferSize given →
    .flag .createMemif ∈ given

/-- The mode is that of the last action, every other value that of its option's
last argument, or the default. -/
structure BoyCliOptions.ReadFrom (options : BoyCliOptions) (given : List BoyOpt) : Prop where
  mode : options.mode = (lastOf actionMode given).getD .showVersion
  logLevel : Taken appParseLogLevel .info (lastArgument .logLevel given) options.logLevel
  unsetSpanIfIndex : Taken ifIndexArgument 0
    (lastArgument .unsetSpan given) options.unsetSpanIfIndex
  setSpanIfIndex : Taken ifIndexArgument 0 (lastArgument .ifaceIdx given) options.setSpanIfIndex
  setSpanMemifName : Taken memifNameArgument none
    (lastArgument .memif given) options.setSpanMemifName
  setSpanDeviceMode : Taken boyParseDeviceMode .both
    (lastArgument .device given) options.setSpanDeviceMode
  id : Taken u32Argument 0 (lastArgument .id given) options.memifCreate.id
  socketId : Taken u32Argument 0 (lastArgument .socketId given) options.memifCreate.socketId
  ringSize : Taken u32Argument 1024 (lastArgument .ringSize given) options.memifCreate.ringSize
  bufferSize : Taken u32Argument 2048
    (lastArgument .bufferSize given) options.memifCreate.bufferSize

/-- The user gave the index, the device and a name that is not empty. -/
def BoyCliOptions.SpanGiven (options : BoyCliOptions) (given : List BoyOpt) : Prop :=
  (∃ optarg, lastArgument .ifaceIdx given = some optarg ∧
    ifIndexArgument optarg = some options.setSpanIfIndex) ∧
    (∃ optarg, lastArgument .device given = some optarg ∧
      boyParseDeviceMode optarg = some options.setSpanDeviceMode) ∧
    ∃ name, lastArgument .memif given = some name ∧ name ≠ [] ∧ options.setSpanMemifName = some name

/-! ## One option -/

/-- The loop goes on behind this option. -/
def Passes : BoyOpt → Prop
  | .flag flag => flag ≠ .help
  | .operand operand optarg => ValidArgument operand optarg
  | .unknown => False

theorem parsedOr_bind_isOk_iff {α β : Type} {before behind : String} {optarg : CString}
    {parsed : Option α} {f : α → Except BoyCliExit β} (goes_on : ∀ a, ∃ b, f a = .ok b) :
    (∃ b, (parsedOr before optarg behind parsed >>= f) = .ok b) ↔ parsed.isSome = true := by
  cases parsed with
  | none =>
    constructor
    · rintro ⟨b, ok⟩
      cases ok
    · intro no
      cases no
  | some a => exact iff_of_true (goes_on a) rfl

theorem step_isOk_iff (s : BoyCliScan) (o : BoyOpt) : (∃ s', s.step o = .ok s') ↔ Passes o := by
  cases o with
  | unknown =>
    constructor
    · rintro ⟨s', ok⟩
      cases ok
    · exact False.elim
  | flag flag =>
    cases flag
    case help =>
      constructor
      · rintro ⟨s', ok⟩
        cases ok
      · exact fun no => absurd rfl no
    all_goals exact iff_of_true ⟨_, rfl⟩ nofun
  | operand operand optarg =>
    cases operand
    all_goals exact parsedOr_bind_isOk_iff fun _ => ⟨_, rfl⟩

theorem foldlM_isOk_iff (s : BoyCliScan) (given : List BoyOpt) :
    (∃ s', given.foldlM BoyCliScan.step s = .ok s') ↔ ∀ o ∈ given, Passes o := by
  induction given generalizing s with
  | nil => exact iff_of_true ⟨s, rfl⟩ (by simp)
  | cons o given ih =>
    rw [List.foldlM_cons, List.forall_mem_cons, ← step_isOk_iff s o]
    cases first : s.step o with
    | error exit =>
      constructor
      · rintro ⟨s', ok⟩
        cases ok
      · rintro ⟨⟨s', ok⟩, _⟩
        cases ok
    | ok middle =>
      rw [← ih middle]
      exact (and_iff_right ⟨middle, rfl⟩).symm

theorem passes_iff (given : List BoyOpt) : (∀ o ∈ given, Passes o) ↔
    .flag .help ∉ given ∧ .unknown ∉ given ∧
      ∀ operand optarg, .operand operand optarg ∈ given → ValidArgument operand optarg := by
  constructor
  · intro all
    exact ⟨fun help => all _ help rfl, fun unknown => all _ unknown,
      fun operand optarg there => all _ there⟩
  · rintro ⟨no_help, no_unknown, valid⟩ o there
    cases o with
    | flag flag =>
      rintro rfl
      exact no_help there
    | operand operand optarg => exact valid operand optarg there
    | unknown => exact no_unknown there

/-! ## The tests behind the loop -/

theorem any_isFlag_iff (flag : BoyFlag) (given : List BoyOpt) :
    given.any (isFlag flag) = true ↔ .flag flag ∈ given := by
  rw [List.any_eq_true]
  constructor
  · rintro ⟨o, there, own⟩
    cases o with
    | flag flag' =>
      have same : flag' = flag := by simpa [isFlag] using own
      exact same ▸ there
    | operand => cases own
    | unknown => cases own
  · exact fun there => ⟨_, there, by simp [isFlag]⟩

theorem any_isOperand_iff (operand : BoyOperand) (given : List BoyOpt) :
    given.any (isOperand operand) = true ↔ Present operand given := by
  rw [List.any_eq_true]
  constructor
  · rintro ⟨o, there, own⟩
    cases o with
    | flag => cases own
    | operand operand' optarg =>
      have same : operand' = operand := by simpa [isOperand] using own
      exact ⟨optarg, same ▸ there⟩
    | unknown => cases own
  · rintro ⟨optarg, there⟩
    exact ⟨_, there, by simp [isOperand]⟩

theorem any_or (p q : BoyOpt → Bool) (given : List BoyOpt) :
    (given.any fun o => p o || q o) = (given.any p || given.any q) := by
  induction given with
  | nil => rfl
  | cons o given ih =>
    rw [List.any_cons, List.any_cons, List.any_cons, ih]
    cases p o <;> cases q o <;> simp

theorem any_isMemifOperand_iff (given : List BoyOpt) : given.any isMemifOperand = true ↔
    Present .id given ∨ Present .socketId given ∨ Present .ringSize given ∨
      Present .bufferSize given := by
  have split : given.any isMemifOperand =
    (given.any (isOperand .id) || given.any (isOperand .socketId) ||
      given.any (isOperand .ringSize) || given.any (isOperand .bufferSize)) := by
    rw [← any_or, ← any_or, ← any_or]
    rfl
  rw [split, Bool.or_eq_true, Bool.or_eq_true, Bool.or_eq_true, any_isOperand_iff,
    any_isOperand_iff,
    any_isOperand_iff, any_isOperand_iff, or_assoc, or_assoc]

theorem check_isOk_iff (s : BoyCliScan) : (∃ options, s.check = .ok options) ↔
    (s.hasSetSpan = true ∧ s.hasSetSpanIface = true ∧ s.hasSetSpanMemif = true ∧
      s.hasSetSpanDevice = true ∨
      ¬ s.hasSetSpan = true ∧ ¬ s.hasSetSpanIface = true ∧ ¬ s.hasSetSpanMemif = true ∧
        ¬ s.hasSetSpanDevice = true) ∧
      (s.hasCreateMemifOption = true → s.hasCreateMemif = true) := by
  have refused {exit : BoyCliExit} :
      ¬ ∃ options, (.error exit : Except BoyCliExit BoyCliOptions) = .ok options := by simp
  unfold BoyCliScan.check
  split
  · rename_i alone
    exact iff_of_false refused (by grind)
  · rename_i together
    split
    · rename_i missing
      exact iff_of_false refused (by grind)
    · rename_i whole
      split
      · rename_i memif
        exact iff_of_false refused (by grind)
      · rename_i memif
        exact iff_of_true ⟨_, rfl⟩ (by grind)

/-! ## All options -/

theorem BoyCliScan.Reads.readFrom {s : BoyCliScan} {given : List BoyOpt} (h : s.Reads given) :
    s.options.ReadFrom given :=
  ⟨h.mode, h.logLevel, h.unsetSpanIfIndex, h.setSpanIfIndex, h.setSpanMemifName,
    h.setSpanDeviceMode, h.id, h.socketId, h.ringSize, h.bufferSize⟩

theorem BoyCliScan.Reads.check_isOk_iff {s : BoyCliScan} {given : List BoyOpt} (h : s.Reads given) :
    (∃ options, s.check = .ok options) ↔
      (.flag .setSpan ∈ given ∧
          Present .ifaceIdx given ∧ Present .memif given ∧ Present .device given ∨
        .flag .setSpan ∉ given ∧
          ¬ Present .ifaceIdx given ∧ ¬ Present .memif given ∧ ¬ Present .device given) ∧
      (Present .id given ∨ Present .socketId given ∨ Present .ringSize given ∨
        Present .bufferSize given →
        .flag .createMemif ∈ given) := by
  rw [BeastieBoy.check_isOk_iff, h.hasSetSpan, h.hasSetSpanIface, h.hasSetSpanMemif,
    h.hasSetSpanDevice, h.hasCreateMemif, h.hasCreateMemifOption, any_isFlag_iff, any_isFlag_iff,
    any_isOperand_iff, any_isOperand_iff, any_isOperand_iff, any_isMemifOperand_iff]

theorem accepted_iff (given : List BoyOpt) :
    (∃ options, boyReadOptions given = .ok options) ↔ Acceptable given := by
  have loop := foldlM_isOk_iff .start given
  rw [passes_iff] at loop
  unfold boyReadOptions
  cases ended : given.foldlM BoyCliScan.step .start with
  | error exit =>
    constructor
    · rintro ⟨options, ok⟩
      cases ok
    · intro h
      obtain ⟨s, ok⟩ := loop.2 ⟨h.no_help, h.no_unknown, h.valid⟩
      rw [ended] at ok
      cases ok
  | ok s =>
    obtain ⟨no_help, no_unknown, valid⟩ := loop.1 ⟨s, ended⟩
    have tests := (BoyCliScan.reads_start.foldlM ended).check_isOk_iff
    rw [List.nil_append] at tests
    constructor
    · intro ok
      obtain ⟨span, memif⟩ := tests.1 ok
      exact ⟨no_help, no_unknown, valid, span, memif⟩
    · exact fun h => tests.2 ⟨h.span, h.memif⟩

theorem setSpan_mem {given : List BoyOpt} (h : lastOf actionMode given = some .setSpan) :
    .flag .setSpan ∈ given := by
  obtain ⟨o, there, mode⟩ := List.mem_filterMap.1 (List.mem_of_getLast? h)
  rcases o with flag | ⟨operand, _⟩ | _
  · cases flag <;> first | exact there | cases mode
  · cases operand <;> cases mode
  · cases mode

theorem lastArgument_of_present {operand : BoyOperand} {given : List BoyOpt}
    (h : Present operand given) :
    ∃ optarg, lastArgument operand given = some optarg := by
  obtain ⟨optarg, there⟩ := h
  have member : optarg ∈ given.filterMap (argumentOf operand) :=
    List.mem_filterMap.2 ⟨_, there, by simp [argumentOf]⟩
  exact Option.isSome_iff_exists.1 (List.getLast?_isSome.2 (List.ne_nil_of_mem member))

theorem BoyCliOptions.ReadFrom.spanGiven {options : BoyCliOptions} {given : List BoyOpt}
    (h : options.ReadFrom given) (accepted : Acceptable given) (mode : options.mode = .setSpan) :
    options.SpanGiven given := by
  have last : lastOf actionMode given = some .setSpan := by
    have last_action := h.mode
    rw [mode] at last_action
    cases action : lastOf actionMode given with
    | none =>
      rw [action] at last_action
      cases last_action
    | some mode' =>
      rw [action] at last_action
      exact congrArg some last_action.symm
  rcases accepted.span with ⟨_, iface, memif, device⟩ | ⟨no_span, _⟩
  · obtain ⟨index, index_last⟩ := lastArgument_of_present iface
    obtain ⟨side, side_last⟩ := lastArgument_of_present device
    obtain ⟨name, name_last⟩ := lastArgument_of_present memif
    have index_taken := h.setSpanIfIndex
    have side_taken := h.setSpanDeviceMode
    have name_taken := h.setSpanMemifName
    rw [index_last] at index_taken
    rw [side_last] at side_taken
    rw [name_last] at name_taken
    refine ⟨⟨index, index_last, index_taken⟩, ⟨side, side_last, side_taken⟩, name, name_last, ?_⟩
    simp only [Taken, memifNameArgument] at name_taken
    split at name_taken
    · cases name_taken
    · rename_i some_name
      exact ⟨some_name, (Option.some.inj name_taken).symm⟩
  · exact absurd (setSpan_mem last) no_span

/-- **Which options are accepted, and as what.** Whatever the order of the options
and however often each is given. -/
theorem options_accepted_iff (given : List BoyOpt) :
    ((∃ options, boyReadOptions given = .ok options) ↔ Acceptable given) ∧
      ∀ options, boyReadOptions given = .ok options →
        options.ReadFrom given ∧ (options.mode = .setSpan → options.SpanGiven given) := by
  refine ⟨accepted_iff given, fun options ok => ?_⟩
  obtain ⟨s, reads, checked⟩ := reads_of_accepted ok
  have read := reads.readFrom
  rw [← BoyCliScan.eq_of_check checked] at read
  exact ⟨read, read.spanGiven ((accepted_iff given).1 ⟨options, ok⟩)⟩

end BeastieBoy
