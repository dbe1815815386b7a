import BeastieBoy.BeastieCli
import BeastieBoy.CLib.Spelling
import BeastieBoy.CliReads

/-!
# The options of `beastie`

Which command lines are accepted, as what, and that every option record a
command line can give is given by one that is printed from it.
-/

namespace BeastieBoy

open CLib OptionTable

/-! ## What is read -/

/-- The mode is to show the version if this was asked for, every other value that
of its option's last argument, or the default. -/
structure BeastieCliOptions.ReadFrom (options : BeastieCliOptions)
    (given : List BeastieOpt) : Prop where
  mode : options.mode = if .flag .version ∈ given then .showVersion else .capture
  logLevel : Taken appParseLogLevel .info (lastFor .logLevel given) options.logLevel
  memifId : Taken parseMemifId 0 (lastFor .id given) options.capture.memifId
  maxBytes : Taken parseMaxCaptureBytes 655360
    (lastFor .maxBytes given) options.capture.maxCaptureBytes
  output : Taken (some <| some ·) (some "capture.pcap".toList)
    (lastFor .write given) options.capture.outputFilename
  socket : Taken memifNameArgument (some "/run/vpp/memif.sock".toList) (lastFor .socket given)
    options.capture.memifSocketPath

/-- What one more option does to a value. -/
theorem Taken.or {α : Type} {parse : CString → Option α} {default value value' : α}
    {last new : Option CString}
    (h : Taken parse default last value) (h' : Taken parse value new value') :
    Taken parse default (new.or last) value' := by
  cases new with
  | none =>
    obtain rfl : value' = value := h'
    exact h
  | some optarg => exact h'

theorem parsedOrInvalid_bind_eq_ok {α β : Type} {before : String} {optarg : CString}
    {parsed : Option α} {f : α → Except BeastieCliExit β} {b : β}
    (h : parsedOrInvalid before optarg parsed >>= f = .ok b) :
    ∃ a, parsed = some a ∧ f a = .ok b := by
  cases parsed with
  | none => cases h
  | some a => exact ⟨a, rfl, h⟩

/-- A number that was parsed fits its field. -/
theorem parseUnsigned_lt {accepts : Nat → Bool} {width n : Nat} {s : CString}
    (h : parseUnsigned accepts width s = some n) : n < 2 ^ width := by
  obtain ⟨m, _, _, rfl⟩ := parseUnsigned_eq_some_iff.1 h
  exact Nat.mod_lt _ (Nat.two_pow_pos width)

theorem memifIdArgument_toNat {s : CString} {id : UInt32} (h : memifIdArgument s = some id) :
    parseMemifId s = some id.toNat := by
  obtain ⟨n, parsed, rfl⟩ := Option.map_eq_some_iff.1 h
  have small : n < 2 ^ 32 := parseUnsigned_lt parsed
  rw [parsed, UInt32.toNat_ofNat', Nat.mod_eq_of_lt small]

theorem maxBytesArgument_toNat {s : CString} {max : UInt64} (h : maxBytesArgument s = some max) :
    parseMaxCaptureBytes s = some max.toNat := by
  obtain ⟨n, parsed, rfl⟩ := Option.map_eq_some_iff.1 h
  have small : n < 2 ^ 64 := parseUnsigned_lt parsed
  rw [parsed, UInt64.toNat_ofNat', Nat.mod_eq_of_lt small]

theorem socketArgument_name {s path : CString} (h : socketArgument s = some path) :
    memifNameArgument s = some (some path) := by
  unfold socketArgument at h
  unfold memifNameArgument
  split at h
  · cases h
  · rename_i some_path
    rw [if_neg some_path, Option.some.inj h]

theorem socketArgument_isSome_iff {s : CString} : (socketArgument s).isSome = true ↔ s ≠ [] := by
  unfold socketArgument
  split
  · rename_i empty
    simp [empty]
  · rename_i some_path
    simp [some_path]

/-- What an accepted option does to each value. -/
structure BeastieCliOptions.Stepped (options : BeastieCliOptions) (o : BeastieOpt)
    (options' : BeastieCliOptions) :
    Prop where
  mode : options'.mode = if o = .flag .version then .showVersion else options.mode
  logLevel : Taken appParseLogLevel options.logLevel (argumentFor .logLevel o) options'.logLevel
  memifId : Taken parseMemifId options.capture.memifId (argumentFor .id o) options'.capture.memifId
  maxBytes : Taken parseMaxCaptureBytes options.capture.maxCaptureBytes (argumentFor .maxBytes o)
    options'.capture.maxCaptureBytes
  output : Taken (some <| some ·) options.capture.outputFilename
    (argumentFor .write o) options'.capture.outputFilename
  socket : Taken memifNameArgument options.capture.memifSocketPath (argumentFor .socket o)
    options'.capture.memifSocketPath

theorem BeastieCliOptions.stepped_of_step {options options' : BeastieCliOptions} {o : BeastieOpt}
    (ok : options.step o = .ok options') : options.Stepped o options' := by
  cases o with
  | unknown => cases ok
  | flag flag =>
    cases flag with
    | help => cases ok
    | version =>
      cases ok
      exact ⟨rfl, rfl, rfl, rfl, rfl, rfl⟩
  | operand operand optarg =>
    cases operand with
    | id =>
      obtain ⟨id, parsed, same⟩ := parsedOrInvalid_bind_eq_ok ok
      cases same
      exact ⟨rfl, rfl, memifIdArgument_toNat parsed, rfl, rfl, rfl⟩
    | logLevel =>
      obtain ⟨level, parsed, same⟩ := parsedOrInvalid_bind_eq_ok ok
      cases same
      exact ⟨rfl, parsed, rfl, rfl, rfl, rfl⟩
    | maxBytes =>
      obtain ⟨max, parsed, same⟩ := parsedOrInvalid_bind_eq_ok ok
      cases same
      exact ⟨rfl, rfl, rfl, maxBytesArgument_toNat parsed, rfl, rfl⟩
    | socket =>
      obtain ⟨path, parsed, same⟩ := parsedOrInvalid_bind_eq_ok ok
      cases same
      exact ⟨rfl, rfl, rfl, rfl, rfl, socketArgument_name parsed⟩
    | write =>
      cases ok
      exact ⟨rfl, rfl, rfl, rfl, rfl, rfl⟩

theorem BeastieCliOptions.readFrom_default : beastieDefaultOptions.ReadFrom [] :=
  ⟨rfl, rfl, rfl, rfl, rfl, rfl⟩

theorem BeastieCliOptions.ReadFrom.step {options options' : BeastieCliOptions}
    {given : List BeastieOpt}
    {o : BeastieOpt} (h : options.ReadFrom given) (ok : options.step o = .ok options') :
    options'.ReadFrom (given ++ [o]) := by
  have one := stepped_of_step ok
  refine ⟨?_, ?_, ?_, ?_, ?_, ?_⟩
  · rw [one.mode, h.mode]
    by_cases version : o = .flag .version
    · simp [version]
    · simp [version, Ne.symm version]
  · exact lastFor_concat .logLevel given o ▸ h.logLevel.or one.logLevel
  · exact lastFor_concat .id given o ▸ h.memifId.or one.memifId
  · exact lastFor_concat .maxBytes given o ▸ h.maxBytes.or one.maxBytes
  · exact lastFor_concat .write given o ▸ h.output.or one.output
  · exact lastFor_concat .socket given o ▸ h.socket.or one.socket

theorem BeastieCliOptions.ReadFrom.foldlM {options options' : BeastieCliOptions}
    {before given : List BeastieOpt}
    (h : options.ReadFrom before)
    (ok : given.foldlM BeastieCliOptions.step options = .ok options') :
    options'.ReadFrom (before ++ given) := by
  induction given generalizing options before with
  | nil =>
    cases ok
    rw [List.append_nil]
    exact h
  | cons o given ih =>
    rw [List.foldlM_cons] at ok
    cases first : options.step o with
    | error exit =>
      rw [first] at ok
      cases ok
    | ok middle =>
      rw [first] at ok
      have rest := ih (h.step first) ok
      rwa [List.append_assoc] at rest

/-! ## What is accepted -/

/-- The parser of the option takes the argument. -/
def BeastieValid : BeastieOperand → CString → Prop
  | .id, optarg => (parseMemifId optarg).isSome
  | .logLevel, optarg => (appParseLogLevel optarg).isSome
  | .socket, optarg => optarg ≠ []
  | .write, _ => True
  | .maxBytes, optarg => (parseMaxCaptureBytes optarg).isSome

/-- The loop goes on behind this option. -/
def BeastiePasses : BeastieOpt → Prop
  | .flag flag => flag ≠ .help
  | .operand operand optarg => BeastieValid operand optarg
  | .unknown => False

theorem parsedOrInvalid_bind_isOk_iff {α β : Type} {before : String} {optarg : CString}
    {parsed : Option α} {f : α → Except BeastieCliExit β} (goes_on : ∀ a, ∃ b, f a = .ok b) :
    (∃ b, (parsedOrInvalid before optarg parsed >>= f) = .ok b) ↔ parsed.isSome = true := by
  cases parsed with
  | none =>
    constructor
    · rintro ⟨b, ok⟩
      cases ok
    · intro no
      cases no
  | some a => exact iff_of_true (goes_on a) rfl

theorem BeastieCliOptions.step_isOk_iff (options : BeastieCliOptions) (o : BeastieOpt) :
    (∃ options', options.step o = .ok options') ↔ BeastiePasses o := by
  cases o with
  | unknown => exact iff_of_false nofun id
  | flag flag =>
    cases flag with
    | help => exact iff_of_false nofun fun no => no rfl
    | version => exact iff_of_true ⟨_, rfl⟩ nofun
  | operand operand optarg =>
    cases operand with
    | id =>
      rw [BeastiePasses, BeastieValid, ← Option.isSome_map]
      exact parsedOrInvalid_bind_isOk_iff fun _ => ⟨_, rfl⟩
    | logLevel => exact parsedOrInvalid_bind_isOk_iff fun _ => ⟨_, rfl⟩
    | maxBytes =>
      rw [BeastiePasses, BeastieValid, ← Option.isSome_map]
      exact parsedOrInvalid_bind_isOk_iff fun _ => ⟨_, rfl⟩
    | socket =>
      rw [BeastiePasses, BeastieValid, ← socketArgument_isSome_iff]
      exact parsedOrInvalid_bind_isOk_iff fun _ => ⟨_, rfl⟩
    | write => exact iff_of_true ⟨_, rfl⟩ trivial

theorem beastie_foldlM_isOk_iff (options : BeastieCliOptions) (given : List BeastieOpt) :
    (∃ options', given.foldlM BeastieCliOptions.step options = .ok options') ↔
      ∀ o ∈ given, BeastiePasses o :=
  OptionTable.foldlM_isOk_iff BeastieCliOptions.step_isOk_iff options given

/-- The beginning of the message about an argument; `--write` takes any. -/
def beastieComplaint : BeastieOperand → String
  | .id => "Invalid memif id: "
  | .logLevel => "Invalid log level: "
  | .socket => "Invalid memif socket path: "
  | .write => ""
  | .maxBytes => "Invalid max capture size: "

/-- How the loop ends at this option. -/
def BeastieRefused : BeastieOpt → BeastieCliExit → Prop
  | .flag flag, exit => flag = .help ∧ exit = .help
  | .operand operand optarg, exit =>
    ¬ BeastieValid operand optarg ∧
      exit = .failure ((beastieComplaint operand).toList ++ optarg ++ "\n".toList)
  | .unknown, exit => exit = .usage

theorem parsedOrInvalid_bind_eq_error {α β : Type} {before : String} {optarg : CString}
    {parsed : Option α}
    {f : α → Except BeastieCliExit β} (goes_on : ∀ a, ∃ b, f a = .ok b) {exit : BeastieCliExit} :
    (parsedOrInvalid before optarg parsed >>= f) = .error exit ↔
      ¬ parsed.isSome = true ∧ exit = .failure (before.toList ++ optarg ++ "\n".toList) := by
  cases parsed with
  | none =>
    constructor
    · intro refused
      cases refused
      exact ⟨nofun, rfl⟩
    · rintro ⟨_, rfl⟩
      rfl
  | some a =>
    obtain ⟨b, ok⟩ := goes_on a
    have unfolded : (parsedOrInvalid before optarg (some a) >>= f) = f a := rfl
    rw [unfolded, ok]
    exact iff_of_false nofun fun no => no.1 rfl

theorem BeastieCliOptions.step_eq_error_iff (options : BeastieCliOptions) (o : BeastieOpt)
    (exit : BeastieCliExit) :
    options.step o = .error exit ↔ BeastieRefused o exit := by
  cases o with
  | unknown => exact ⟨fun h => by cases h; rfl, fun h => h ▸ rfl⟩
  | flag flag =>
    cases flag with
    | help => exact ⟨fun h => by cases h; exact ⟨rfl, rfl⟩, fun h => h.2 ▸ rfl⟩
    | version => exact iff_of_false nofun nofun
  | operand operand optarg =>
    cases operand with
    | id =>
      rw [BeastieRefused, BeastieValid, ← Option.isSome_map]
      exact parsedOrInvalid_bind_eq_error fun _ => ⟨_, rfl⟩
    | logLevel => exact parsedOrInvalid_bind_eq_error fun _ => ⟨_, rfl⟩
    | maxBytes =>
      rw [BeastieRefused, BeastieValid, ← Option.isSome_map]
      exact parsedOrInvalid_bind_eq_error fun _ => ⟨_, rfl⟩
    | socket =>
      rw [BeastieRefused, BeastieValid, ← socketArgument_isSome_iff]
      exact parsedOrInvalid_bind_eq_error fun _ => ⟨_, rfl⟩
    | write => exact iff_of_false nofun fun h => h.1 trivial

/-- The loop ends at the first option it refuses. -/
theorem beastieReadOptions_eq_error_iff (given : List BeastieOpt) (exit : BeastieCliExit) :
    beastieReadOptions given = .error exit ↔
      ∃ before o after, given = before ++ o :: after ∧ (∀ b ∈ before, BeastiePasses b) ∧
        BeastieRefused o exit :=
  foldlM_eq_error_iff BeastieCliOptions.step_isOk_iff BeastieCliOptions.step_eq_error_iff
    beastieDefaultOptions given
    exit

/-- **Which command lines `beastie` accepts, and as what.** It accepts the ways to
write options that ask for no help and whose arguments are valid; each value is
its last argument's, or the default. Otherwise the first option it refuses says
how it ends. -/
theorem beastie_command_lines (posixlyCorrect : Bool) (argv : List CString) :
    ((∃ options, beastieParseCliOptions posixlyCorrect argv = .ok options) ↔
      ∃ given, beastieOptionTable.Spells posixlyCorrect argv.tail given ∧ .flag .help ∉ given ∧
        ∀ operand optarg, .operand operand optarg ∈ given → BeastieValid operand optarg) ∧
    (∀ given options, beastieOptionTable.Spells posixlyCorrect argv.tail given →
      beastieParseCliOptions posixlyCorrect argv = .ok options → options.ReadFrom given) ∧
    ∀ exit, beastieParseCliOptions posixlyCorrect argv = .error exit ↔
      ∃ before o after, beastieOptions posixlyCorrect argv = before ++ o :: after ∧
        (∀ b ∈ before, BeastiePasses b) ∧ BeastieRefused o exit := by
  refine ⟨?_, fun given options spelled ok => ?_, beastieReadOptions_eq_error_iff _⟩
  · have accepted :=
      beastie_foldlM_isOk_iff beastieDefaultOptions (beastieOptions posixlyCorrect argv)
    constructor
    · intro ok
      have passes := accepted.1 ok
      refine ⟨_, getoptLong_eq_iff.1 ⟨rfl, fun unknown => passes _ unknown⟩,
        fun help => passes _ help rfl, ?_⟩
      exact fun operand optarg there => passes _ there
    · rintro ⟨given, spelled, no_help, valid⟩
      have same : beastieOptions posixlyCorrect argv = given := spelled.getoptLong_eq
      rw [same] at accepted
      have ok := accepted.2 ?_
      · rwa [← same] at ok
      · intro o there
        cases o with
        | flag flag =>
          rintro rfl
          exact no_help there
        | operand operand optarg => exact valid operand optarg there
        | unknown => exact spelled.known there
  · have same : beastieOptions posixlyCorrect argv = given := spelled.getoptLong_eq
    rw [beastieParseCliOptions, same] at ok
    exact BeastieCliOptions.readFrom_default.foldlM ok

/-! ## A command line for every record -/

def logLevelText : AppLogLevel → CString
  | .error => "error".toList
  | .warning => "warning".toList
  | .info => "info".toList
  | .debug => "debug".toList

@[simp] theorem appParseLogLevel_text (level : AppLogLevel) :
    appParseLogLevel (logLevelText level) = some level := by
  cases level <;> rfl

def beastieLongName : OptionValue BeastieFlag BeastieOperand → CString
  | .noArgument .help => "help".toList
  | .noArgument .version => "version".toList
  | .requiredArgument .id => "id".toList
  | .requiredArgument .logLevel => "log-level".toList
  | .requiredArgument .socket => "socket".toList
  | .requiredArgument .write => "write".toList
  | .requiredArgument .maxBytes => "max-bytes".toList

theorem naming_beastieLongName : beastieOptionTable.Naming beastieLongName := by
  constructor
  all_goals
    rintro (flag | operand)
    · cases flag <;> decide
    · cases operand <;> decide

/-- Options that give the record. -/
def BeastieCliOptions.printed (options : BeastieCliOptions) : List BeastieOpt :=
  (if options.mode = .showVersion then [.flag .version] else []) ++
    [.operand .logLevel (logLevelText options.logLevel),
      .operand .id (Nat.toDigits 10 options.capture.memifId),
      .operand .maxBytes (Nat.toDigits 10 options.capture.maxCaptureBytes),
      .operand .write (options.capture.outputFilename.getD []),
      .operand .socket (options.capture.memifSocketPath.getD [])]

def beastieCommandLine (options : BeastieCliOptions) : List CString :=
  "beastie".toList :: spelling beastieLongName options.printed

/-- There is a name for the output, and a socket path that is not empty. -/
def BeastieCliOptions.Named (options : BeastieCliOptions) : Prop :=
  options.capture.outputFilename.isSome = true ∧
    ∃ path, options.capture.memifSocketPath = some path ∧ path ≠ []

theorem parseMemifId_toDigits {id : Nat} (fits : id < 2 ^ 32) :
    parseMemifId (Nat.toDigits 10 id) = some id :=
  parseUnsigned_printed 0 0 (by decide) fits rfl

theorem parseMaxCaptureBytes_toDigits {max : Nat} (fits : max < 2 ^ 64) :
    parseMaxCaptureBytes (Nat.toDigits 10 max) = some max :=
  parseUnsigned_printed 0 0 (by decide) fits rfl

namespace BeastieCliOptions

variable {options : BeastieCliOptions}

theorem known_printed (options : BeastieCliOptions) : .unknown ∉ options.printed := by
  unfold printed
  split
  · simp
  · simp

/-- No printed option is refused. -/
theorem passes_printed (named : options.Named) : ∀ o ∈ options.printed, BeastiePasses o := by
  obtain ⟨_, path, socket, some_path⟩ := named
  have level : BeastieValid .logLevel (logLevelText options.logLevel) :=
    Option.isSome_of_eq_some (appParseLogLevel_text options.logLevel)
  have id : BeastieValid .id (Nat.toDigits 10 options.capture.memifId) :=
    Option.isSome_of_eq_some (parseMemifId_toDigits options.capture.id_lt)
  have max : BeastieValid .maxBytes (Nat.toDigits 10 options.capture.maxCaptureBytes) :=
    Option.isSome_of_eq_some (parseMaxCaptureBytes_toDigits options.capture.max_lt)
  have there : BeastieValid .socket (options.capture.memifSocketPath.getD []) := by
    rw [socket]
    exact some_path
  have operands : ∀ o ∈ [Opt.operand BeastieOperand.logLevel (logLevelText options.logLevel),
      .operand .id (Nat.toDigits 10 options.capture.memifId),
      .operand .maxBytes (Nat.toDigits 10 options.capture.maxCaptureBytes),
      .operand .write (options.capture.outputFilename.getD []),
      .operand .socket (options.capture.memifSocketPath.getD [])], BeastiePasses o := by
    simp only [List.forall_mem_cons]
    exact ⟨level, id, max, trivial, there, by simp⟩
  intro o printed
  rcases List.mem_append.1 printed with version | operand
  · split at version
    · rw [List.mem_singleton.1 version]
      exact nofun
    · cases version
  · exact operands o operand

theorem readFrom_printed (named : options.Named) : options.ReadFrom options.printed := by
  obtain ⟨mode, logLevel, capture⟩ := options
  obtain ⟨some_output, path, socket, some_path⟩ := named
  obtain ⟨name, output⟩ := Option.isSome_iff_exists.1 some_output
  simp only at output socket
  have id := parseMemifId_toDigits capture.id_lt
  have max := parseMaxCaptureBytes_toDigits capture.max_lt
  have level := appParseLogLevel_text logLevel
  have write : some (some (capture.outputFilename.getD [])) = some capture.outputFilename := by
    rw [output]
    rfl
  have taken : memifNameArgument (capture.memifSocketPath.getD []) =
      some capture.memifSocketPath := by
    rw [socket]
    exact if_neg some_path
  cases mode with
  | capture => exact ⟨rfl, level, id, max, write, taken⟩
  | showVersion => exact ⟨rfl, level, id, max, write, taken⟩

end BeastieCliOptions

theorem Taken.unique {α : Type} {parse : CString → Option α} {default a b : α}
    {last : Option CString}
    (ha : Taken parse default last a) (hb : Taken parse default last b) : a = b := by
  cases last with
  | none => exact Eq.trans ha (Eq.symm hb)
  | some optarg => exact Option.some.inj (Eq.trans (Eq.symm ha) hb)

theorem BeastieCliOptions.ReadFrom.unique {given : List BeastieOpt}
    {options options' : BeastieCliOptions}
    (h : options.ReadFrom given) (h' : options'.ReadFrom given) : options = options' := by
  obtain ⟨mode, logLevel, ⟨output, max, id, socket, max_lt, id_lt⟩⟩ := options
  obtain ⟨mode', logLevel', ⟨output', max', id', socket', max_lt', id_lt'⟩⟩ := options'
  obtain rfl : mode = mode' := h.mode.trans h'.mode.symm
  obtain rfl : logLevel = logLevel' := h.logLevel.unique h'.logLevel
  obtain rfl : output = output' := h.output.unique h'.output
  obtain rfl : max = max' := h.maxBytes.unique h'.maxBytes
  obtain rfl : id = id' := h.memifId.unique h'.memifId
  obtain rfl : socket = socket' := h.socket.unique h'.socket
  rfl

theorem BeastieCliOptions.ReadFrom.named {given : List BeastieOpt} {options : BeastieCliOptions}
    (h : options.ReadFrom given) : options.Named := by
  constructor
  · have output := h.output
    cases last : lastFor .write given with
    | none =>
      rw [last] at output
      rw [show options.capture.outputFilename = _ from output]
      rfl
    | some name =>
      rw [last] at output
      rw [← Option.some.inj (show some (some name) =
        some options.capture.outputFilename from output)]
      rfl
  · have socket := h.socket
    cases last : lastFor .socket given with
    | none =>
      rw [last] at socket
      exact ⟨_, socket, by decide⟩
    | some path =>
      rw [last] at socket
      simp only [Taken, memifNameArgument] at socket
      split at socket
      · cases socket
      · rename_i some_path
        exact ⟨path, (Option.some.inj socket).symm, some_path⟩

/-- **Printed and read back.** The records that some command line gives are those
with an output name and a socket path that is not empty, and each is given by the
command line printed from it. -/
theorem beastie_options_read_back (posixlyCorrect : Bool) (options : BeastieCliOptions) :
    ((∃ argv, beastieParseCliOptions posixlyCorrect argv = .ok options) ↔ options.Named) ∧
      (options.Named →
        beastieParseCliOptions posixlyCorrect (beastieCommandLine options) = .ok options) := by
  have read_back (named : options.Named) :
      beastieParseCliOptions posixlyCorrect (beastieCommandLine options) = .ok options := by
    have same := (naming_beastieLongName.spells posixlyCorrect options.known_printed).getoptLong_eq
    have unfolded : beastieParseCliOptions posixlyCorrect (beastieCommandLine options) =
        beastieReadOptions options.printed := congrArg beastieReadOptions same
    obtain ⟨options', ok⟩ :=
      (beastie_foldlM_isOk_iff beastieDefaultOptions options.printed).2
        (BeastieCliOptions.passes_printed named)
    have given := BeastieCliOptions.readFrom_default.foldlM ok
    have read : options' = options := given.unique (BeastieCliOptions.readFrom_printed named)
    rw [read] at ok
    exact unfolded.trans ok
  refine ⟨⟨?_, fun named => ⟨_, read_back named⟩⟩, read_back⟩
  rintro ⟨argv, ok⟩
  exact (BeastieCliOptions.readFrom_default.foldlM ok).named

end BeastieBoy
