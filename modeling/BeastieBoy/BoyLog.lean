import BeastieBoy.SpanCmd

/-!
# What `boy` prints

`boy_log.c`, and the version from `common.c`. Messages and results go to one
stream.
-/

namespace BeastieBoy

open CLib

/-- `%d`. -/
def formatD (n : Int) : CString :=
  if n < 0 then '-' :: Nat.toDigits 10 n.natAbs else Nat.toDigits 10 n.natAbs

/-- `%zu`. -/
def formatZu (n : Nat) : CString := Nat.toDigits 10 n

/-- `vfprintf`, with the conversions of the messages. `none` where the arguments
are not the ones that the format asks for. -/
def vfprintf : CString → List BoyLogArg → Option CString
  | [], [] => some []
  | [], _ :: _ => none
  | '%' :: 's' :: format, .str s :: args => (vfprintf format args).map (s ++ ·)
  | '%' :: 'u' :: format, .u32 n :: args => (vfprintf format args).map (formatU n ++ ·)
  | '%' :: 'd' :: format, .int n :: args => (vfprintf format args).map (formatD n ++ ·)
  | '%' :: 'z' :: 'u' :: format, .size n :: args => (vfprintf format args).map (formatZu n ++ ·)
  | '%' :: _, _ => none
  | c :: format, args => (vfprintf format args).map (c :: ·)

/-- The arguments are the ones that the format asks for. -/
def Fitting (format : String) (args : List BoyLogArg) : Prop :=
  (vfprintf format.toList args).isSome = true

instance (format : String) (args : List BoyLogArg) : Decidable (Fitting format args) :=
  inferInstanceAs (Decidable (_ = true))

structure BoyMessage where
  level : AppLogLevel
  format : String
  args : List BoyLogArg

/-- What a process prints with: what it was built with and against, the level of
`boy_set_log_level`, and the columns of its terminal. -/
structure BoyPrinter where
  gitVersion : CString
  apiSeries : Int
  apiVersion : CString
  logLevel : AppLogLevel
  available : Nat

namespace BoyPrinter

def boyLog (printer : BoyPrinter) (level : AppLogLevel) (format : String)
    (args : List BoyLogArg) : CString :=
  appLogMessage printer.logLevel level ((vfprintf format.toList args).getD [])

def startMessages (printer : BoyPrinter) (operation : String) : List BoyMessage :=
  [⟨.info, "boy starting", []⟩,
    ⟨.debug, "build VPP API target: series=%d version=%s",
      [.int printer.apiSeries, .str printer.apiVersion]⟩,
    ⟨.debug, "%s", [.str operation.toList]⟩]

def boyLogStart (printer : BoyPrinter) (operation : String) : CString :=
  (printer.startMessages operation).flatMap fun m => printer.boyLog m.level m.format m.args

/-- Every call of `boy_log`. -/
def messages (printer : BoyPrinter) : BoyCall → List BoyMessage
  | .boyLogStart operation => printer.startMessages operation
  | .boyLog level format args => [⟨level, format, args⟩]
  | _ => []

def appTableRender (printer : BoyPrinter) (table : AppTable) (widths : Bool) : CString :=
  if widths then BeastieBoy.appTableRender table printer.available else []

def appPrintVersion (printer : BoyPrinter) (appName : String) : CString :=
  appName.toList ++ " ".toList ++ printer.gitVersion ++ ['\n']

def printed (printer : BoyPrinter) : BoyCall → CString
  | .boyLogStart operation => printer.boyLogStart operation
  | .boyLog level format args => printer.boyLog level format args
  | .appTableRender table widths => printer.appTableRender table widths
  | .appPrintVersion appName => printer.appPrintVersion appName
  | _ => []

/-- The standard output behind these events. -/
def stdout (printer : BoyPrinter) (tr : List BoyEvent) : CString :=
  tr.flatMap fun e => printer.printed e.call

end BoyPrinter

end BeastieBoy
