import BeastieBoy.Capture
import BeastieBoy.CliOptions

/-!
# The command line of `beastie`

`beastie/cli_options.c` and `beastie/main.c`. The text of `print_usage` is left
out. The loop ends with an error at the first option it refuses; there is no test
behind it.
-/

namespace BeastieBoy

open CLib Interact

inductive BeastieMode where
  | capture
  | showVersion
  deriving DecidableEq

structure BeastieCliOptions where
  mode : BeastieMode
  logLevel : AppLogLevel
  capture : BeastieCaptureConfig

inductive BeastieFlag where
  | help
  | version
  deriving DecidableEq

inductive BeastieOperand where
  | id
  | logLevel
  | socket
  | write
  | maxBytes
  deriving DecidableEq

abbrev BeastieOpt := Opt BeastieFlag BeastieOperand

/-- `"Vhi:l:m:s:w:"` and `long_options`. -/
def beastieOptionTable : OptionTable BeastieFlag BeastieOperand where
  short := [('V', .noArgument .version), ('h', .noArgument .help), ('i', .requiredArgument .id),
    ('l', .requiredArgument .logLevel), ('m', .requiredArgument .maxBytes),
    ('s', .requiredArgument .socket), ('w', .requiredArgument .write)]
  long := [("help".toList, .noArgument .help), ("id".toList, .requiredArgument .id),
    ("log-level".toList, .requiredArgument .logLevel), ("version".toList, .noArgument .version),
    ("socket".toList, .requiredArgument .socket), ("write".toList, .requiredArgument .write),
    ("max-bytes".toList, .requiredArgument .maxBytes)]

def beastieOptions (posixlyCorrect : Bool) (argv : List CString) : List BeastieOpt :=
  beastieOptionTable.getoptLong posixlyCorrect none argv.tail

/-! ## The loop -/

def beastieDefaultMaxCaptureBytes : UInt64 := 10 * 256 * 256

def beastieDefaultMemifId : UInt32 := 0

def memifIdArgument (value : CString) : Option UInt32 := (parseMemifId value).map UInt32.ofNat

def maxBytesArgument (value : CString) : Option UInt64 :=
  (parseMaxCaptureBytes value).map UInt64.ofNat

/-- The path is kept as it is, unless it is empty. -/
def socketArgument (value : CString) : Option CString := if value = [] then none else some value

/-- How `beastie_parse_cli_options` ends without `BEASTIE_CLI_PARSE_OK`. -/
inductive BeastieCliExit where
  | help
  | usage
  | failure (message : CString)
  deriving DecidableEq

/-- The parsed argument, or the message with the argument behind it. -/
def parsedOrInvalid {α : Type} (before : String) (optarg : CString) (parsed : Option α) :
    Except BeastieCliExit α :=
  match parsed with
  | some value => .ok value
  | none => .error (.failure (before.toList ++ optarg ++ "\n".toList))

namespace BeastieCaptureConfig

def withOutput (config : BeastieCaptureConfig) (name : CString) : BeastieCaptureConfig :=
  { config with outputFilename := some name }

def withMaxBytes (config : BeastieCaptureConfig) (max : UInt64) : BeastieCaptureConfig :=
  { config with maxCaptureBytes := max.toNat, max_lt := max.toNat_lt }

def withMemifId (config : BeastieCaptureConfig) (id : UInt32) : BeastieCaptureConfig :=
  { config with memifId := id.toNat, id_lt := id.toNat_lt }

def withSocket (config : BeastieCaptureConfig) (path : CString) : BeastieCaptureConfig :=
  { config with memifSocketPath := some path }

end BeastieCaptureConfig

def beastieDefaultOptions : BeastieCliOptions where
  mode := .capture
  logLevel := .info
  capture := {
    outputFilename := some beastieDefaultOutputFilename
    maxCaptureBytes := beastieDefaultMaxCaptureBytes.toNat
    memifId := beastieDefaultMemifId.toNat
    memifSocketPath := some beastieDefaultMemifSocketPath
    max_lt := beastieDefaultMaxCaptureBytes.toNat_lt
    id_lt := beastieDefaultMemifId.toNat_lt }

/-- The `switch`. -/
def BeastieCliOptions.step (options : BeastieCliOptions) :
    BeastieOpt → Except BeastieCliExit BeastieCliOptions
  | .flag .version => .ok { options with mode := .showVersion }
  | .operand .id optarg => do
    let id ← parsedOrInvalid "Invalid memif id: " optarg (memifIdArgument optarg)
    .ok { options with capture := options.capture.withMemifId id }
  | .operand .logLevel optarg => do
    let level ← parsedOrInvalid "Invalid log level: " optarg (appParseLogLevel optarg)
    .ok { options with logLevel := level }
  | .operand .maxBytes optarg => do
    let max ← parsedOrInvalid "Invalid max capture size: " optarg (maxBytesArgument optarg)
    .ok { options with capture := options.capture.withMaxBytes max }
  | .operand .socket optarg => do
    let path ← parsedOrInvalid "Invalid memif socket path: " optarg (socketArgument optarg)
    .ok { options with capture := options.capture.withSocket path }
  | .operand .write optarg => .ok { options with capture := options.capture.withOutput optarg }
  | .flag .help => .error .help
  | .unknown => .error .usage

/-- Behind `getopt_long`. -/
def beastieReadOptions (given : List BeastieOpt) : Except BeastieCliExit BeastieCliOptions :=
  given.foldlM BeastieCliOptions.step beastieDefaultOptions

def beastieParseCliOptions (posixlyCorrect : Bool) (argv : List CString) :
    Except BeastieCliExit BeastieCliOptions :=
  beastieReadOptions (beastieOptions posixlyCorrect argv)

/-! ## `main.c` -/

/-- What `main` comes to: a capture, or an exit code and, for the version, the
name `app_print_version` is called with. -/
inductive BeastieMain where
  | returned (rc : Int) (version : Option String)
  | capturing (config : BeastieCaptureConfig)

/-- Behind `beastie_set_log_level`. -/
def beastieRun (options : BeastieCliOptions) : BeastieMain :=
  match options.mode with
  | .showVersion => .returned 0 (some "beastie")
  | .capture => .capturing options.capture

/-- `main`. -/
def beastieMain (posixlyCorrect : Bool) (argv : List CString) : BeastieMain :=
  match beastieParseCliOptions posixlyCorrect argv with
  | .ok options => beastieRun options
  | .error .help => .returned 0 none
  | .error _ => .returned 1 none

end BeastieBoy
