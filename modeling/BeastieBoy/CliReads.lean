import BeastieBoy.CliOptions

/-!
# What the loop has read

After any options the mode is that of the last action, every other field the
value of its option's last argument or its default, and a flag tells whether its
option was seen.
-/

namespace BeastieBoy

open CLib

/-- The mode an option selects. -/
def actionMode : BoyOpt → Option BoyMode
  | .flag .version => some .showCodeVersion
  | .flag .createMemif => some .createMemif
  | .flag .showMemif => some .showMemif
  | .flag .showPhy => some .showPhy
  | .flag .showSpan => some .showSpan
  | .flag .setSpan => some .setSpan
  | .flag .showVpp => some .showVersion
  | .operand .unsetSpan _ => some .unsetSpan
  | _ => none

def argumentOf (operand : BoyOperand) : BoyOpt → Option CString
  | .operand operand' optarg => if operand' = operand then some optarg else none
  | _ => none

def isFlag (flag : BoyFlag) : BoyOpt → Bool
  | .flag flag' => flag' = flag
  | _ => false

def isOperand (operand : BoyOperand) : BoyOpt → Bool
  | .operand operand' _ => operand' = operand
  | _ => false

/-- `--id`, `--socket-id`, `--ring-size` and `--buffer-size`. -/
def isMemifOperand (o : BoyOpt) : Bool :=
  isOperand .id o || isOperand .socketId o || isOperand .ringSize o || isOperand .bufferSize o

/-- What the last option on which `f` is defined gives. -/
def lastOf {α : Type} (f : BoyOpt → Option α) (given : List BoyOpt) : Option α :=
  (given.filterMap f).getLast?

abbrev lastArgument (operand : BoyOperand) (given : List BoyOpt) : Option CString :=
  lastOf (argumentOf operand) given

theorem lastOf_append {α : Type} (f : BoyOpt → Option α) (given : List BoyOpt) (o : BoyOpt) :
    lastOf f (given ++ [o]) = (f o).or (lastOf f given) := by
  rw [lastOf, List.filterMap_append]
  cases h : f o with
  | none => simp [h, lastOf]
  | some a => simp [h]

theorem any_append_singleton (p : BoyOpt → Bool) (given : List BoyOpt) (o : BoyOpt) :
    (given ++ [o]).any p = (p o || given.any p) := by
  rw [List.any_append, Bool.or_comm]
  simp

/-- The last argument was parsed to `value`, which is the default if there is none. -/
def Taken {α : Type} (parse : CString → Option α) (default : α) (last : Option CString)
    (value : α) : Prop :=
  match last with
  | none => value = default
  | some optarg => parse optarg = some value

theorem Taken.next {α : Type} {parse : CString → Option α} {default value value' : α}
    {operand : BoyOperand}
    {given : List BoyOpt} {o : BoyOpt} (h : Taken parse default (lastArgument operand given) value)
    (h' : Taken parse value (argumentOf operand o) value') :
    Taken parse default (lastArgument operand (given ++ [o])) value' := by
  rw [lastArgument, lastOf_append]
  cases argument : argumentOf operand o with
  | none =>
    rw [argument] at h'
    have same : value' = value := h'
    rw [same]
    exact h
  | some optarg =>
    rw [argument] at h'
    exact h'

/-! ## One option -/

namespace BoyCliScan

/-- What an accepted option does to each variable. -/
structure Stepped (s : BoyCliScan) (o : BoyOpt) (s' : BoyCliScan) : Prop where
  mode : s'.options.mode = (actionMode o).getD s.options.mode
  logLevel : Taken appParseLogLevel s.options.logLevel (argumentOf .logLevel o) s'.options.logLevel
  unsetSpanIfIndex : Taken ifIndexArgument s.options.unsetSpanIfIndex (argumentOf .unsetSpan o)
    s'.options.unsetSpanIfIndex
  setSpanIfIndex : Taken ifIndexArgument s.options.setSpanIfIndex
    (argumentOf .ifaceIdx o) s'.options.setSpanIfIndex
  setSpanMemifName : Taken memifNameArgument s.options.setSpanMemifName (argumentOf .memif o)
    s'.options.setSpanMemifName
  setSpanDeviceMode : Taken boyParseDeviceMode s.options.setSpanDeviceMode (argumentOf .device o)
    s'.options.setSpanDeviceMode
  id : Taken u32Argument s.options.memifCreate.id (argumentOf .id o) s'.options.memifCreate.id
  socketId : Taken u32Argument s.options.memifCreate.socketId
    (argumentOf .socketId o) s'.options.memifCreate.socketId
  ringSize : Taken u32Argument s.options.memifCreate.ringSize
    (argumentOf .ringSize o) s'.options.memifCreate.ringSize
  bufferSize : Taken u32Argument s.options.memifCreate.bufferSize (argumentOf .bufferSize o)
    s'.options.memifCreate.bufferSize
  hasSetSpan : s'.hasSetSpan = (isFlag .setSpan o || s.hasSetSpan)
  hasSetSpanIface : s'.hasSetSpanIface = (isOperand .ifaceIdx o || s.hasSetSpanIface)
  hasSetSpanMemif : s'.hasSetSpanMemif = (isOperand .memif o || s.hasSetSpanMemif)
  hasSetSpanDevice : s'.hasSetSpanDevice = (isOperand .device o || s.hasSetSpanDevice)
  hasCreateMemif : s'.hasCreateMemif = (isFlag .createMemif o || s.hasCreateMemif)
  hasCreateMemifOption : s'.hasCreateMemifOption = (isMemifOperand o || s.hasCreateMemifOption)

theorem parsedOr_bind_eq_ok {α β : Type} {before behind : String} {optarg : CString}
    {parsed : Option α}
    {f : α → Except BoyCliExit β} {b : β} (h : parsedOr before optarg behind parsed >>= f = .ok b) :
    ∃ a, parsed = some a ∧ f a = .ok b := by
  cases parsed with
  | none => cases h
  | some a => exact ⟨a, rfl, h⟩

theorem stepped_of_step {s s' : BoyCliScan} {o : BoyOpt} (ok : s.step o = .ok s') :
    s.Stepped o s' := by
  cases o with
  | unknown => cases ok
  | flag flag =>
    cases flag
    all_goals cases ok
    all_goals constructor
    all_goals rfl
  | operand operand optarg =>
    cases operand
    all_goals obtain ⟨value, parsed, same⟩ := parsedOr_bind_eq_ok ok
    all_goals cases same
    all_goals constructor
    all_goals first
      | rfl
      | exact parsed

end BoyCliScan

/-! ## All options -/

namespace BoyCliScan

structure Reads (s : BoyCliScan) (given : List BoyOpt) : Prop where
  mode : s.options.mode = (lastOf actionMode given).getD .showVersion
  logLevel : Taken appParseLogLevel .info (lastArgument .logLevel given) s.options.logLevel
  unsetSpanIfIndex : Taken ifIndexArgument 0
    (lastArgument .unsetSpan given) s.options.unsetSpanIfIndex
  setSpanIfIndex : Taken ifIndexArgument 0 (lastArgument .ifaceIdx given) s.options.setSpanIfIndex
  setSpanMemifName : Taken memifNameArgument none
    (lastArgument .memif given) s.options.setSpanMemifName
  setSpanDeviceMode : Taken boyParseDeviceMode .both
    (lastArgument .device given) s.options.setSpanDeviceMode
  id : Taken u32Argument boyDefaultMemifId (lastArgument .id given) s.options.memifCreate.id
  socketId : Taken u32Argument boyDefaultMemifSocketId
    (lastArgument .socketId given) s.options.memifCreate.socketId
  ringSize : Taken u32Argument boyDefaultMemifRingSize
    (lastArgument .ringSize given) s.options.memifCreate.ringSize
  bufferSize : Taken u32Argument boyDefaultMemifBufferSize (lastArgument .bufferSize given)
    s.options.memifCreate.bufferSize
  hasSetSpan : s.hasSetSpan = given.any (isFlag .setSpan)
  hasSetSpanIface : s.hasSetSpanIface = given.any (isOperand .ifaceIdx)
  hasSetSpanMemif : s.hasSetSpanMemif = given.any (isOperand .memif)
  hasSetSpanDevice : s.hasSetSpanDevice = given.any (isOperand .device)
  hasCreateMemif : s.hasCreateMemif = given.any (isFlag .createMemif)
  hasCreateMemifOption : s.hasCreateMemifOption = given.any isMemifOperand

theorem reads_start : start.Reads [] := by
  constructor
  all_goals rfl

theorem Reads.step {s s' : BoyCliScan} {given : List BoyOpt} {o : BoyOpt} (h : s.Reads given)
    (ok : s.step o = .ok s') : s'.Reads (given ++ [o]) := by
  have one := stepped_of_step ok
  refine ⟨?_, h.logLevel.next one.logLevel, h.unsetSpanIfIndex.next one.unsetSpanIfIndex,
    h.setSpanIfIndex.next one.setSpanIfIndex, h.setSpanMemifName.next one.setSpanMemifName,
    h.setSpanDeviceMode.next one.setSpanDeviceMode, h.id.next one.id, h.socketId.next one.socketId,
    h.ringSize.next one.ringSize, h.bufferSize.next one.bufferSize, ?_, ?_, ?_, ?_, ?_, ?_⟩
  · rw [one.mode, h.mode, lastOf_append]
    cases actionMode o with
    | none => rfl
    | some mode => rfl
  · rw [one.hasSetSpan, h.hasSetSpan, any_append_singleton]
  · rw [one.hasSetSpanIface, h.hasSetSpanIface, any_append_singleton]
  · rw [one.hasSetSpanMemif, h.hasSetSpanMemif, any_append_singleton]
  · rw [one.hasSetSpanDevice, h.hasSetSpanDevice, any_append_singleton]
  · rw [one.hasCreateMemif, h.hasCreateMemif, any_append_singleton]
  · rw [one.hasCreateMemifOption, h.hasCreateMemifOption, any_append_singleton]

theorem Reads.foldlM {s s' : BoyCliScan} {before given : List BoyOpt} (h : s.Reads before)
    (ok : given.foldlM BoyCliScan.step s = .ok s') : s'.Reads (before ++ given) := by
  induction given generalizing s before with
  | nil =>
    cases ok
    rw [List.append_nil]
    exact h
  | cons o given ih =>
    rw [List.foldlM_cons] at ok
    cases first : s.step o with
    | error exit =>
      rw [first] at ok
      cases ok
    | ok middle =>
      rw [first] at ok
      have rest := ih (h.step first) ok
      rwa [List.append_assoc] at rest

/-- The tests let the options through as they are. -/
theorem eq_of_check {s : BoyCliScan} {options : BoyCliOptions} (ok : s.check = .ok options) :
    options = s.options := by
  unfold check at ok
  split at ok
  · cases ok
  · split at ok
    · cases ok
    · split at ok
      · cases ok
      · cases ok
        rfl

end BoyCliScan

theorem reads_of_accepted {given : List BoyOpt} {options : BoyCliOptions}
    (ok : boyReadOptions given = .ok options) :
    ∃ s, BoyCliScan.Reads s given ∧ s.check = .ok options := by
  unfold boyReadOptions at ok
  cases loop : given.foldlM BoyCliScan.step .start with
  | error exit =>
    rw [loop] at ok
    cases ok
  | ok s =>
    rw [loop] at ok
    exact ⟨s, BoyCliScan.reads_start.foldlM loop, ok⟩

end BeastieBoy
