import BeastieBoy.CLib.Numeral

/-!
# `getopt_long`

What `getopt_long` yields from the elements of a command line, in order: options
of one letter, alone or in clusters, and long names, cut short as long as they
are not ambiguous. An argument stands behind its option or in the next element.
Elements that are no options are passed over; with `POSIXLY_CORRECT` the first
of them ends the options, as `--` always does.

The value of an option without argument is a `Flag`, that of an option with a
required argument an `Operand`.
-/

namespace CLib

inductive OptionValue (Flag Operand : Type) where
  | noArgument (flag : Flag)
  | requiredArgument (operand : Operand)
  deriving DecidableEq

/-- `optstring` and `longopts`. -/
structure OptionTable (Flag Operand : Type) where
  short : List (Char × OptionValue Flag Operand)
  long : List (CString × OptionValue Flag Operand)

/-- What one call yields; `unknown` is `'?'`. -/
inductive Opt (Flag Operand : Type) where
  | flag (flag : Flag)
  | operand (operand : Operand) (optarg : CString)
  | unknown
  deriving DecidableEq

namespace OptionTable
variable {Flag Operand : Type} [DecidableEq Flag] [DecidableEq Operand]

/-- A name that is no option's own may be the beginning of options that agree. -/
def findLong (t : OptionTable Flag Operand) (name : CString) : Option (OptionValue Flag Operand) :=
  match t.long.lookup name with
  | some value => some value
  | none =>
    match (t.long.filter fun entry => name.isPrefixOf entry.1).map Prod.snd with
    | [] => none
    | value :: others => if ∀ other ∈ others, other = value then some value else none

/-- Behind `--`: the options, and one that waits for its argument. -/
def longElement (t : OptionTable Flag Operand) (body : CString) :
    List (Opt Flag Operand) × Option Operand :=
  match t.findLong (body.takeWhile (· ≠ '=')), body.dropWhile (· ≠ '=') with
  | none, _ => ([.unknown], none)
  | some (.noArgument flag), [] => ([.flag flag], none)
  | some (.noArgument _), _ :: _ => ([.unknown], none)
  | some (.requiredArgument operand), [] => ([], some operand)
  | some (.requiredArgument operand), _ :: optarg => ([.operand operand optarg], none)

/-- Behind `-`. -/
def shortElement (t : OptionTable Flag Operand) : CString → List (Opt Flag Operand) × Option Operand
  | [] => ([], none)
  | c :: rest =>
    match t.short.lookup c with
    | none => (.unknown :: (t.shortElement rest).1, (t.shortElement rest).2)
    | some (.noArgument flag) => (.flag flag :: (t.shortElement rest).1, (t.shortElement rest).2)
    | some (.requiredArgument operand) =>
      if rest = [] then ([], some operand) else ([.operand operand rest], none)

/-- The options of the elements, where `waiting` takes the first as its argument. -/
def getoptLong (t : OptionTable Flag Operand) (posixlyCorrect : Bool) (waiting : Option Operand) :
    List CString → List (Opt Flag Operand)
  | [] => if waiting.isSome then [.unknown] else []
  | element :: rest =>
    match waiting, element with
    | some operand, optarg => .operand operand optarg :: t.getoptLong posixlyCorrect none rest
    | none, ['-', '-'] => []
    | none, '-' :: '-' :: body => (t.longElement body).1 ++ t.getoptLong posixlyCorrect
        (t.longElement body).2 rest
    | none, '-' :: c :: cluster =>
      (t.shortElement (c :: cluster)).1 ++ t.getoptLong posixlyCorrect
        (t.shortElement (c :: cluster)).2 rest
    | none, _ => if posixlyCorrect then [] else t.getoptLong posixlyCorrect none rest

end OptionTable

end CLib
