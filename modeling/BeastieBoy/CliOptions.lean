import BeastieBoy.Arguments
import BeastieBoy.CLib.Getopt
import BeastieBoy.MemifCmd
import BeastieBoy.PhyCmd
import BeastieBoy.VersionCmd

/-!
# The command line of `boy`

`cli_options.c` and `main.c`. The text of `boy_print_usage` is left out.
-/

namespace BeastieBoy

open CLib Interact

inductive BoyMode where
  | showVersion
  | showSpan
  | showMemif
  | unsetSpan
  | setSpan
  | createMemif
  | showPhy
  | showCodeVersion
  deriving DecidableEq

structure BoyCliOptions where
  mode : BoyMode
  logLevel : AppLogLevel
  unsetSpanIfIndex : UInt32
  setSpanIfIndex : UInt32
  /-- `none` is `NULL`. -/
  setSpanMemifName : Option CString
  setSpanDeviceMode : BoySpanDeviceMode
  memifCreate : BoyMemifCreateOptions

/-! ## The options -/

inductive BoyFlag where
  | help
  | version
  | createMemif
  | showMemif
  | showPhy
  | showSpan
  | setSpan
  | showVpp
  deriving DecidableEq

inductive BoyOperand where
  | id
  | ifaceIdx
  | logLevel
  | memif
  | bufferSize
  | device
  | ringSize
  | socketId
  | unsetSpan
  deriving DecidableEq

abbrev BoyOpt := Opt BoyFlag BoyOperand

/-- `"Vchi:I:l:B:D:M:R:o:mpsSu:v"` and `long_options`. -/
def boyOptionTable : OptionTable BoyFlag BoyOperand where
  short := [('V', .noArgument .version), ('c', .noArgument .createMemif), ('h', .noArgument .help),
    ('i', .requiredArgument .id), ('I', .requiredArgument .ifaceIdx),
    ('l', .requiredArgument .logLevel), ('B', .requiredArgument .bufferSize),
    ('D', .requiredArgument .device), ('M', .requiredArgument .memif),
    ('R', .requiredArgument .ringSize), ('o', .requiredArgument .socketId),
    ('m', .noArgument .showMemif), ('p', .noArgument .showPhy), ('s', .noArgument .showSpan),
    ('S', .noArgument .setSpan), ('u', .requiredArgument .unsetSpan), ('v', .noArgument .showVpp)]
  long := [("help".toList, .noArgument .help), ("id".toList, .requiredArgument .id),
    ("iface-idx".toList, .requiredArgument .ifaceIdx),
    ("log-level".toList, .requiredArgument .logLevel),
    ("memif".toList, .requiredArgument .memif),
    ("buffer-size".toList, .requiredArgument .bufferSize),
    ("device".toList, .requiredArgument .device), ("ring-size".toList, .requiredArgument .ringSize),
    ("socket-id".toList, .requiredArgument .socketId), ("version".toList, .noArgument .version),
    ("create-memif".toList, .noArgument .createMemif),
    ("show-memif".toList, .noArgument .showMemif),
    ("show-phy".toList, .noArgument .showPhy), ("show-span".toList, .noArgument .showSpan),
    ("set-span".toList, .noArgument .setSpan), ("unset-span".toList, .requiredArgument .unsetSpan),
    ("show-vpp".toList, .noArgument .showVpp)]

/-- The options of a command line, whose first element is the name of the program. -/
def boyOptions (posixlyCorrect : Bool) (argv : List CString) : List BoyOpt :=
  boyOptionTable.getoptLong posixlyCorrect none argv.tail

/-! ## Their arguments -/

def appParseLogLevel (value : CString) : Option AppLogLevel :=
  if value = "error".toList then some .error
  else if value = "warning".toList then some .warning
  else if value = "info".toList then some .info
  else if value = "debug".toList then some .debug
  else none

def boyParseDeviceMode (value : CString) : Option BoySpanDeviceMode :=
  if value = "rx".toList then some .rx
  else if value = "tx".toList then some .tx
  else if value = "both".toList then some .both
  else none

def ifIndexArgument (value : CString) : Option UInt32 := (boyParseIfIndex value).map UInt32.ofNat

def u32Argument (value : CString) : Option UInt32 := (boyParseU32 value).map UInt32.ofNat

/-- The name is kept as it is, unless it is empty. -/
def memifNameArgument (value : CString) : Option (Option CString) :=
  if value = [] then none else some (some value)

/-! ## The loop -/

/-- How `boy_parse_cli_options` ends without `BOY_CLI_PARSE_OK`: the usage and
`BOY_CLI_PARSE_EXIT_SUCCESS`, the usage and `BOY_CLI_PARSE_EXIT_FAILURE`, or a
message and this. -/
inductive BoyCliExit where
  | help
  | usage
  | failure (message : CString)
  deriving DecidableEq

/-- The variables of the loop. -/
structure BoyCliScan where
  options : BoyCliOptions
  hasSetSpan : Bool
  hasSetSpanIface : Bool
  hasSetSpanMemif : Bool
  hasSetSpanDevice : Bool
  hasCreateMemif : Bool
  hasCreateMemifOption : Bool

def boyDefaultOptions : BoyCliOptions where
  mode := .showVersion
  logLevel := .info
  unsetSpanIfIndex := 0
  setSpanIfIndex := 0
  setSpanMemifName := none
  setSpanDeviceMode := .both
  memifCreate :=
    ⟨boyDefaultMemifId, boyDefaultMemifSocketId, boyDefaultMemifRingSize, boyDefaultMemifBufferSize⟩

def BoyCliScan.start : BoyCliScan := ⟨boyDefaultOptions, false, false, false, false, false, false⟩

/-- The parsed argument, or the message with the argument for `%s`. -/
def parsedOr {α : Type} (before : String) (optarg : CString) (behind : String) (parsed : Option α) :
    Except BoyCliExit α :=
  match parsed with
  | some value => .ok value
  | none => .error (.failure (before.toList ++ optarg ++ behind.toList))

namespace BoyCliScan

def withMode (s : BoyCliScan) (mode : BoyMode) : BoyCliScan := { s with options.mode := mode }

/-- The `switch`. -/
def step (s : BoyCliScan) : BoyOpt → Except BoyCliExit BoyCliScan
  | .flag .version => .ok (s.withMode .showCodeVersion)
  | .flag .createMemif => .ok { s.withMode .createMemif with hasCreateMemif := true }
  | .operand .id optarg => do
    let id ← parsedOr "Invalid memif id: " optarg "\n" (u32Argument optarg)
    .ok { s with options.memifCreate.id := id, hasCreateMemifOption := true }
  | .operand .ifaceIdx optarg => do
    let ifIndex ← parsedOr "Invalid source interface index: " optarg "\n" (ifIndexArgument optarg)
    .ok { s with options.setSpanIfIndex := ifIndex, hasSetSpanIface := true }
  | .operand .logLevel optarg => do
    let level ← parsedOr "Invalid log level: " optarg "\n" (appParseLogLevel optarg)
    .ok { s with options.logLevel := level }
  | .operand .device optarg => do
    let mode ← parsedOr "Invalid device mode: " optarg " (expected both|rx|tx)\n"
      (boyParseDeviceMode optarg)
    .ok { s with options.setSpanDeviceMode := mode, hasSetSpanDevice := true }
  | .operand .bufferSize optarg => do
    let bufferSize ← parsedOr "Invalid buffer size: " optarg "\n" (u32Argument optarg)
    .ok { s with options.memifCreate.bufferSize := bufferSize, hasCreateMemifOption := true }
  | .operand .memif optarg => do
    let name ← parsedOr "Invalid memif interface name: " optarg "\n" (memifNameArgument optarg)
    .ok { s with options.setSpanMemifName := name, hasSetSpanMemif := true }
  | .operand .ringSize optarg => do
    let ringSize ← parsedOr "Invalid ring size: " optarg "\n" (u32Argument optarg)
    .ok { s with options.memifCreate.ringSize := ringSize, hasCreateMemifOption := true }
  | .operand .socketId optarg => do
    let socketId ← parsedOr "Invalid socket id: " optarg "\n" (u32Argument optarg)
    .ok { s with options.memifCreate.socketId := socketId, hasCreateMemifOption := true }
  | .flag .showMemif => .ok (s.withMode .showMemif)
  | .flag .showPhy => .ok (s.withMode .showPhy)
  | .flag .showSpan => .ok (s.withMode .showSpan)
  | .flag .setSpan => .ok { s.withMode .setSpan with hasSetSpan := true }
  | .operand .unsetSpan optarg => do
    let ifIndex ← parsedOr "Invalid interface index: " optarg "\n" (ifIndexArgument optarg)
    .ok { s with options.unsetSpanIfIndex := ifIndex, options.mode := .unsetSpan }
  | .flag .showVpp => .ok (s.withMode .showVersion)
  | .flag .help => .error .help
  | .unknown => .error .usage

/-- The tests behind the loop. -/
def check (s : BoyCliScan) : Except BoyCliExit BoyCliOptions :=
  if ¬ s.hasSetSpan ∧ (s.hasSetSpanIface ∨ s.hasSetSpanMemif ∨ s.hasSetSpanDevice) then
    .error (.failure "--iface-idx/--memif/--device require --set-span\n".toList)
  else if s.hasSetSpan ∧ (¬ s.hasSetSpanIface ∨ ¬ s.hasSetSpanMemif ∨ ¬ s.hasSetSpanDevice) then
    .error (.failure "--set-span requires --iface-idx, --memif and --device\n".toList)
  else if ¬ s.hasCreateMemif ∧ s.hasCreateMemifOption then
    .error (.failure "--id/--socket-id/--ring-size/--buffer-size require --create-memif\n".toList)
  else .ok s.options

end BoyCliScan

/-- Behind `getopt_long`. -/
def boyReadOptions (given : List BoyOpt) : Except BoyCliExit BoyCliOptions :=
  given.foldlM BoyCliScan.step .start >>= BoyCliScan.check

def boyParseCliOptions (posixlyCorrect : Bool) (argv : List CString) :
    Except BoyCliExit BoyCliOptions :=
  boyReadOptions (boyOptions posixlyCorrect argv)

/-! ## `main.c` -/

/-- Behind `boy_set_log_level`, which selects the messages that are printed. A
`NULL` for the name is followed. -/
def boyRun (options : BoyCliOptions) : Boy Int :=
  match options.mode with
  | .showCodeVersion => do
    boyCall (.appPrintVersion "boy")
    pure 0
  | .setSpan =>
    match options.setSpanMemifName with
    | some name => boySetSpan options.setSpanIfIndex name options.setSpanDeviceMode
    | none => stuck
  | .unsetSpan => boyUnsetSpan options.unsetSpanIfIndex
  | .showMemif => boyShowMemif
  | .createMemif => boyCreateMemif options.memifCreate
  | .showPhy => boyShowPhy
  | .showSpan => boyShowSpan
  | .showVersion => boyShowVersion

/-- `main`. -/
def boyMain (posixlyCorrect : Bool) (argv : List CString) : Boy Int :=
  match boyParseCliOptions posixlyCorrect argv with
  | .ok options => boyRun options
  | .error .help => pure 0
  | .error _ => pure 1

end BeastieBoy
