import BeastieBoy.CaptureErrors

/-!
# What `beastie` prints

`beastie_log.c` and the `printf`s of a capture, as one stream. The level hides
messages; no level hides an error.
-/

namespace BeastieBoy

open CLib Interact Local

/-- What a process prints with: the level of `beastie_set_log_level`, the texts of
`memif_strerror`, and how a part of a whole is printed in per cent, which the
source computes in floating point. -/
structure BeastiePrinter where
  logLevel : AppLogLevel
  memifStrerror : MemifErr → CString
  percent : Nat → Nat → CString

def CaptureCall.isPrintf (c : CaptureCall) : Bool := c matches .printf ..

theorem eq_of_errorOf {c : CaptureCall} {message : ErrorMessage} (h : c.errorOf = some message) :
    c = .beastieLog .error message.1 message.2 := by
  cases c with
  | beastieLog level format args =>
    cases level with
    | error =>
      cases h
      rfl
    | warning => cases h
    | info => cases h
    | debug => cases h
  | _ => cases h

namespace BeastiePrinter

/-- `vfprintf`, with the conversions of the messages. `none` where the arguments
are not the ones that the format asks for. -/
def vfprintf (printer : BeastiePrinter) : CString → List PrintArg → Option CString
  | [], [] => some []
  | [], _ :: _ => none
  | '%' :: '%' :: format, args => (printer.vfprintf format args).map ('%' :: ·)
  | '%' :: 's' :: format, .str s :: args => (printer.vfprintf format args).map (s ++ ·)
  | '%' :: 's' :: format, .strerror err :: args =>
    (printer.vfprintf format args).map (printer.memifStrerror err ++ ·)
  | '%' :: 'u' :: format, .u32 n :: args =>
    (printer.vfprintf format args).map (Nat.toDigits 10 n ++ ·)
  | '%' :: 'l' :: 'u' :: format, .u64 n :: args =>
    (printer.vfprintf format args).map (Nat.toDigits 10 n ++ ·)
  | '%' :: '.' :: '1' :: 'f' :: format, .percent part whole :: args =>
    (printer.vfprintf format args).map (printer.percent part whole ++ ·)
  | '%' :: _, _ => none
  | c :: format, args => (printer.vfprintf format args).map (c :: ·)

def text (printer : BeastiePrinter) (format : String) (args : List PrintArg) : CString :=
  (printer.vfprintf format.toList args).getD []

def beastieLog (printer : BeastiePrinter) (level : AppLogLevel) (format : String)
    (args : List PrintArg) : CString :=
  appLogMessage printer.logLevel level (printer.text format args)

def printed (printer : BeastiePrinter) : CaptureCall → CString
  | .beastieLog level format args => printer.beastieLog level format args
  | .printf format args => printer.text format args
  | _ => []

/-- The standard output behind these events. -/
def stdout (printer : BeastiePrinter) (tr : List CaptureEvent) : CString :=
  tr.flatMap fun e => printer.printed e.call.2

variable {printer : BeastiePrinter}

theorem isSome_vfprintf (format : CString) (args : List PrintArg) :
    (printer.vfprintf format args).isSome = fitsFormat format args := by
  fun_induction fitsFormat format args with
  | case1 args => cases args <;> rfl
  | case2 format args ih => rw [vfprintf, Option.isSome_map, ih]
  | case3 format _ args ih => rw [vfprintf, Option.isSome_map, ih]
  | case4 format _ args ih => rw [vfprintf, Option.isSome_map, ih]
  | case5 format _ args ih => rw [vfprintf, Option.isSome_map, ih]
  | case6 format _ args ih => rw [vfprintf, Option.isSome_map, ih]
  | case7 format _ _ args ih => rw [vfprintf, Option.isSome_map, ih]
  | case8 =>
    rw [vfprintf]
    · rfl
    all_goals assumption
  | case9 =>
    rename_i ih
    rw [vfprintf, Option.isSome_map, ih]
    all_goals assumption

theorem vfprintf_eq_text {format : String} {args : List PrintArg}
    (fits : fitsFormat format.toList args = true) :
    printer.vfprintf format.toList args = some (printer.text format args) := by
  obtain ⟨told, printed⟩ := Option.isSome_iff_exists.1 ((isSome_vfprintf _ _).trans fits)
  rw [text, printed]
  rfl

/-- `--log-level error` hides every other message. -/
theorem printed_of_no_error (level : printer.logLevel = .error) {c : CaptureCall}
    (silent : c.errorOf = none) (result : c.isPrintf = false) : printer.printed c = [] := by
  cases c with
  | printf format args => cases result
  | beastieLog level' format args =>
    rw [printed, beastieLog, level]
    apply appLogMessage_of_ne_error
    rintro rfl
    cases silent
  | _ => rfl

theorem stdout_append (t u : List CaptureEvent) :
    printer.stdout (t ++ u) = printer.stdout t ++ printer.stdout u := List.flatMap_append

theorem stdout_quiet (level : printer.logLevel = .error) {tr : List CaptureEvent}
    (silent : ∀ e ∈ tr, e.call.2.errorOf = none) :
    printer.stdout tr = printer.stdout (tr.filter (·.call.2.isPrintf)) := by
  induction tr with
  | nil => rfl
  | cons e tr ih =>
    have rest := ih fun e' there => silent e' (List.mem_cons_of_mem _ there)
    have split (tr : List CaptureEvent) :
        printer.stdout (e :: tr) = printer.printed e.call.2 ++ printer.stdout tr := rfl
    cases result : e.call.2.isPrintf with
    | true => simp only [List.filter_cons, result, ↓reduceIte, split, rest]
    | false =>
      have nothing := printed_of_no_error level (silent e List.mem_cons_self) result
      simp only [List.filter_cons, result, Bool.false_eq_true, ↓reduceIte, split, nothing, rest,
        List.nil_append]

/-- Where an error is sent, its line stands. -/
theorem stdout_of_error {t u : List CaptureEvent} {e : CaptureEvent} {message : ErrorMessage}
    (error : e.call.2.errorOf = some message) : printer.stdout (t ++ e :: u) =
      printer.stdout t ++ "[ERROR] ".toList ++ printer.text message.1 message.2 ++
        '\n' :: printer.stdout u := by
  have line : printer.printed e.call.2 =
      "[ERROR] ".toList ++ printer.text message.1 message.2 ++ ['\n'] := by
    rw [eq_of_errorOf error]
    exact appLogMessage_error printer.logLevel _
  have split : printer.stdout (e :: u) = printer.printed e.call.2 ++ printer.stdout u := rfl
  rw [stdout_append, split, line]
  simp only [List.append_assoc, List.cons_append, List.nil_append]

end BeastiePrinter

section Runs
variable {config : BeastieCaptureConfig} {files : CString → FileContent} {ok : CaptureGuard}

/-- **What a capture prints.** At every log level the line of an error stands in
the output where the failure was, and a capture that returned 1 has printed one. At
`--log-level error` a capture in which nothing failed prints its progress only. -/
theorem capture_output {x : CaptureConfiguration} (run : CaptureRun ok config files x)
    (printer : BeastiePrinter) :
    (∀ t u format args, events x.trace = t ++ u → owed config t.reverse = some (format, args) →
      u = [] ∨ ∃ text rest, printer.vfprintf format.toList args = some text ∧
        printer.stdout (events x.trace) =
          printer.stdout t ++ "[ERROR] ".toList ++ text ++ '\n' :: rest) ∧
    (∀ rc s, x.control = .done (.exit (rc, s)) → rc ≠ 0 → ∃ before text rest,
      printer.stdout (events x.trace) = before ++ "[ERROR] ".toList ++ text ++ '\n' :: rest) ∧
    (printer.logLevel = .error →
      (∀ t u, events x.trace = t ++ u → owed config t.reverse = none) →
      printer.stdout (events x.trace) =
        printer.stdout ((events x.trace).filter (·.call.2.isPrintf))) := by
  obtain ⟨phase, passes, speaks⟩ := capture_reports_errors run
  refine ⟨?_, ?_, ?_⟩
  · intro t u format args split due
    cases u with
    | nil => exact .inl rfl
    | cons e u =>
      rw [split] at passes
      obtain ⟨answers, fits⟩ := message_of_passes passes
      have error := answers.trans due
      rw [eq_of_errorOf error] at fits
      refine .inr ⟨_, printer.stdout u, BeastiePrinter.vfprintf_eq_text fits, ?_⟩
      rw [split]
      exact BeastiePrinter.stdout_of_error error
  · intro rc s returned failed
    rw [returned] at speaks
    obtain ⟨b, rfl, told⟩ := speaks
    obtain ⟨e, there, error⟩ := (reckons_of_passes passes).reported (told failed)
    obtain ⟨t, u, split⟩ := List.append_of_mem there
    obtain ⟨message, sent⟩ := Option.ne_none_iff_exists'.1 error
    rw [split]
    exact ⟨_, _, _, BeastiePrinter.stdout_of_error sent⟩
  · intro level nothing
    apply BeastiePrinter.stdout_quiet level
    intro e there
    obtain ⟨t, u, split⟩ := List.append_of_mem there
    rw [split] at passes
    exact (message_of_passes passes).1.trans (nothing t (e :: u) split)

/-- The process of the run in which the first poll fails. -/
def quietBeastie : BeastiePrinter :=
  ⟨.error, fun _ => "Unspecified syscall error (build with -DMEMIF_DBG or make debug).".toList,
    fun _ _ => "0.0".toList⟩

theorem failed_poll_printed : ∃ x,
    CaptureRun Guard.free (defaultCapture 0 (by decide)) (fun _ => .absent) x ∧
    ∃ before text rest, quietBeastie.stdout (events x.trace) =
      before ++ "[ERROR] ".toList ++ text ++ '\n' :: rest := by
  obtain ⟨x, s, run, returned⟩ := unpollable_returns
  exact ⟨x, run, (capture_output run quietBeastie).2.1 1 s returned (by decide)⟩

end Runs

end BeastieBoy
