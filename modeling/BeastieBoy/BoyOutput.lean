import BeastieBoy.BoyReports
import BeastieBoy.PhyShow

/-!
# What `boy` prints

`boy` writes its messages and its tables to the same stream. A command that
returns 1 has said why, and shows no table; one that returns 0 renders the table
that it is for, if there is one, and reports no error. A table whose widths find
no memory is rendered to nothing.
-/

namespace BeastieBoy

open CLib Interact Interact.Prog

/-! ## The widths of a table -/

/-- `app_table_render`, for a table that has columns. -/
def rendering (table : AppTable) (widths : Bool) : List BoyEvent :=
  [⟨.calloc table.columns.length sizeofSizeT, widths⟩, ⟨.appTableRender table widths, ()⟩]

/-- A table is rendered right behind the answer about its widths. -/
def WidthsAsked (tr : List BoyEvent) : Prop :=
  ∀ table widths, .appTableRender table widths ∈ results tr → rendering table widths <:+: tr

def AsksWidths {α : Type} (p : Boy α) : Prop := ∀ tr a, Follows p tr a → WidthsAsked tr

section AsksWidths
variable {α β : Type}

theorem WidthsAsked.append {t u : List BoyEvent} (ht : WidthsAsked t) (hu : WidthsAsked u) :
    WidthsAsked (t ++ u) := by
  intro table widths rendered
  rw [results_append] at rendered
  rcases List.mem_append.1 rendered with earlier | later
  · exact (ht table widths earlier).trans (List.prefix_append t u).isInfix
  · exact (hu table widths later).trans (List.suffix_append t u).isInfix

theorem AsksWidths.bind {p : Boy α} {f : α → Boy β} (hp : AsksWidths p)
    (hf : ∀ tr a, Follows p tr a → AsksWidths (f a)) : AsksWidths (p >>= f) := by
  intro tr b run
  obtain ⟨t, a, u, rfl, first, rest⟩ := follows_bind_iff.1 run
  exact (hp t a first).append (hf t a first u b rest)

theorem AsksWidths.attempt {m : Attempt α} {f : α → Attempt β} (hm : AsksWidths m.run)
    (hf : ∀ tr a, Follows m.run tr (some a) → AsksWidths (f a).run) :
    AsksWidths (m >>= f).run := by
  intro tr b run
  rcases follows_attempt_iff.1 run with ⟨gave_up, _⟩ | ⟨t, a, u, rfl, first, rest⟩
  · exact hm tr none gave_up
  · exact (hm t _ first).append (hf t a first u b rest)

/-- Nothing was rendered. -/
theorem asksWidths_of_speaks {p : Boy α}
    (h : p.Speaks boySaying (fun _ s => s.results = []) .nothing) : AsksWidths p := by
  intro tr a run table widths rendered
  obtain ⟨said, passes, none⟩ := h.follows run
  rw [← (tracks_of_passes passes).printed, none] at rendered
  cases rendered

theorem asksWidths_pure (a : α) : AsksWidths (pure a : Boy α) := asksWidths_of_speaks rfl

theorem Silent.asksWidths {p : Boy α} (h : Silent p) : AsksWidths p :=
  asksWidths_of_speaks ((h.speaks .nothing).mono fun _ _ same => same ▸ rfl)

theorem Tells.asksWidths {failed : α → Prop} {p : Boy α} (h : Tells failed p) : AsksWidths p := by
  apply asksWidths_of_speaks
  apply (h .nothing).mono
  rintro a _ (⟨_, rfl⟩ | ⟨_, rfl⟩)
  · rfl
  · rfl

theorem asksWidths_render {table : AppTable} (columns : table.columns ≠ []) :
    AsksWidths (liftM (runAppTableRender table) : Attempt Unit).run := by
  intro tr b run table' widths' rendered
  obtain ⟨_, rfl, run⟩ := follows_lift_iff.1 run
  rw [runAppTableRender, if_neg columns] at run
  obtain ⟨widths, _, rfl, rest⟩ := follows_call_iff.1 run
  obtain ⟨_, _, rfl, ending⟩ := follows_call_iff.1 rest
  obtain ⟨rfl, _⟩ := follows_done_iff.1 ending
  cases List.mem_singleton.1 rendered
  exact List.infix_rfl

theorem asksWidths_withVapi {operation : String} {body : Attempt Unit}
    (h : AsksWidths body.run) : AsksWidths (withVapi operation body) := by
  apply (silent_call rfl).asksWidths.bind
  intro _ _ _
  apply tells_boyOpenVapi.asksWidths.bind
  intro _ opened _
  have coded : AsksWidths (cleanupCode opened.1 body) := by
    unfold cleanupCode
    split
    · exact asksWidths_pure 1
    · exact h.bind fun _ _ _ => asksWidths_pure _
  apply coded.bind
  intro _ rc _
  apply (silent_boyCloseVapi _).asksWidths.bind
  exact fun _ _ _ => asksWidths_pure rc

end AsksWidths

theorem asksWidths_showSpanBody : AsksWidths showSpanBody.run := by
  apply (tells_gotInterfaces _).asksWidths.attempt
  intro _ interfaces _
  apply (tells_gotSpan _ _).asksWidths.attempt
  intro _ entries _
  apply (tells_gotSpan _ _).asksWidths.attempt
  intro _ entries _
  apply AsksWidths.attempt (Tells.asksWidths (tells_table (by rfl)))
  intro _ table made
  obtain ⟨columns, _⟩ := (visible_of_quiet made quiet_showSpanTable).2 table rfl
  have seven : table.columns.length = 7 := by
    rw [columns]
    rfl
  apply (tells_showSpanInterfaces _ _ _ _).asksWidths.attempt
  intro _ shown filled
  have grown := (visible_of_quiet filled (quiet_showSpanInterfaces _ seven)).2 shown rfl
  apply asksWidths_render
  rw [grown.1, columns]
  exact List.cons_ne_nil _ _

/-- The rows of the memif interfaces, in the order of the table. -/
theorem quiet_showMemifEntries (entries : List BoyMemifEntry) {table : AppTable}
    (three : table.columns.length = 3) :
    Quiet (Appends table (entries.map memifRow)) (showMemifEntries entries table).run := by
  induction entries generalizing table with
  | nil =>
    intro table' h
    rw [← Option.some.inj h]
    exact table.extends_refl
  | cons entry entries ih =>
    have whole : (memifRow entry).length = table.columns.length := three.symm
    apply Only.attempt (quiet_rowOrCleanup whole _)
    · exact fun _ _ h => nomatch h
    intro table' added
    have grown := added table' rfl
    apply (ih (by rw [grown.1, three])).mono (fun _ h => h)
    intro o ho table'' h
    exact grown.trans (ho table'' h)

theorem asksWidths_showMemifBody : AsksWidths showMemifBody.run := by
  apply (tells_gotMemif _).asksWidths.attempt
  intro _ entries _
  apply AsksWidths.attempt (Tells.asksWidths (tells_table (by rfl)))
  intro _ table made
  obtain ⟨columns, _⟩ := (visible_of_quiet made (quiet_tableOrCleanup _ _)).2 table rfl
  have three : table.columns.length = 3 := by
    rw [columns]
    rfl
  apply (tells_showMemifEntries _ _).asksWidths.attempt
  intro _ shown filled
  have grown := (visible_of_quiet filled (quiet_showMemifEntries _ three)).2 shown rfl
  apply asksWidths_render
  rw [grown.1, columns]
  exact List.cons_ne_nil _ _

theorem asksWidths_showPhyBody : AsksWidths showPhyBody.run := by
  apply (tells_gotInterfaces _).asksWidths.attempt
  intro _ interfaces _
  apply AsksWidths.attempt
  · apply asksWidths_of_speaks
    exact (speaks_cardFamilies interfaces.entries .nothing).bind fun _ _ none => none
  intro _ entries _
  apply AsksWidths.attempt (Tells.asksWidths (tells_table (by rfl)))
  intro _ table made
  obtain ⟨columns, _⟩ := (visible_of_quiet made quiet_showPhyTable).2 table rfl
  have six : table.columns.length = 6 := by
    rw [columns]
    rfl
  apply (tells_showPhyInterfaces _ _ _).asksWidths.attempt
  intro _ shown filled
  have grown := (visible_of_quiet filled (quiet_showPhyInterfaces _ six 0)).2 shown rfl
  apply AsksWidths.attempt
  · apply asksWidths_render
    rw [grown.1, columns]
    exact List.cons_ne_nil _ _
  intro _ _ _
  split
  · exact (silent_call rfl).lift.asksWidths
  · exact asksWidths_pure (some ())

/-- A table is rendered by three of the commands. -/
theorem asksWidths_boyRun (options : BoyCliOptions) : AsksWidths (boyRun options) := by
  have answered := answered_boyRun options
  have alone (told : (boyRun options).Speaks boySaying ToldAlone .nothing) :
      AsksWidths (boyRun options) := by
    apply asksWidths_of_speaks
    apply told.mono
    rintro rc _ (⟨_, rfl⟩ | ⟨_, rfl⟩)
    · rfl
    · rfl
  cases mode : options.mode with
  | showVersion =>
    rw [mode] at answered
    exact alone answered
  | unsetSpan =>
    rw [mode] at answered
    exact alone answered
  | setSpan =>
    rw [mode] at answered
    exact alone answered
  | createMemif =>
    rw [mode] at answered
    exact alone answered
  | showSpan =>
    rw [boyRun, mode]
    exact asksWidths_withVapi asksWidths_showSpanBody
  | showMemif =>
    rw [boyRun, mode]
    exact asksWidths_withVapi asksWidths_showMemifBody
  | showPhy =>
    rw [boyRun, mode]
    exact asksWidths_withVapi asksWidths_showPhyBody
  | showCodeVersion =>
    intro tr rc run table widths rendered
    rw [mode] at answered
    obtain ⟨said, passes, _, rfl⟩ := answered.follows run
    rw [← (tracks_of_passes passes).printed] at rendered
    cases List.mem_singleton.1 rendered

namespace BoyPrinter
variable {printer : BoyPrinter} {tr : List BoyEvent}

theorem startMessages_fit (operation : String) :
    ∀ m ∈ printer.startMessages operation, Fitting m.format m.args := by
  simp only [startMessages, List.forall_mem_cons]
  exact ⟨rfl, rfl, rfl, nofun⟩

theorem messages_fit {c : BoyCall} (fits : c.fitting = true) :
    ∀ m ∈ printer.messages c, Fitting m.format m.args := by
  intro m there
  cases c
  case boyLogStart operation => exact startMessages_fit operation m there
  case boyLog level format args =>
    rw [List.mem_singleton.1 there]
    exact fits
  all_goals cases there

/-- An error is printed at every level. -/
theorem error_printed (reported : ReportsError tr) :
    ∃ before message after,
      printer.stdout tr = before ++ "[ERROR] ".toList ++ message ++ '\n' :: after := by
  obtain ⟨e, there, error⟩ := reported
  obtain ⟨earlier, later, rfl⟩ := List.append_of_mem there
  obtain ⟨c, r⟩ := e
  cases c
  case boyLog level format args =>
    cases level
    case error =>
      refine ⟨printer.stdout earlier, (vfprintf format.toList args).getD [],
        printer.stdout later, ?_⟩
      have printed : printer.printed (.boyLog .error format args) =
          "[ERROR] ".toList ++ (vfprintf format.toList args).getD [] ++ ['\n'] :=
        appLogMessage_error printer.logLevel _
      simp only [stdout, List.flatMap_append, List.flatMap_cons, printed, List.append_assoc,
        List.cons_append, List.nil_append]
    all_goals cases error
  all_goals cases error

/-- Where no error was reported, `--log-level error` prints the results. -/
theorem stdout_eq_results (level : printer.logLevel = .error) (none : ¬ ReportsError tr) :
    printer.stdout tr = (results tr).flatMap printer.printed := by
  have quiet (level' : AppLogLevel) (other : level' ≠ .error) (format : String)
      (args : List BoyLogArg) : printer.boyLog level' format args = [] := by
    rw [boyLog, level]
    exact appLogMessage_of_ne_error other _
  have start (operation : String) : printer.boyLogStart operation = [] := by
    simp only [boyLogStart, startMessages, List.flatMap_cons, List.flatMap_nil,
      quiet .info nofun, quiet .debug nofun, List.append_nil]
  induction tr with
  | nil => rfl
  | cons e tr ih =>
    have rest := ih fun reported => none (reported.imp fun _ h => ⟨List.mem_cons_of_mem _ h.1, h.2⟩)
    have here : e.call.isError ≠ true := fun error => none ⟨e, List.mem_cons_self, error⟩
    have split : printer.stdout (e :: tr) = printer.printed e.call ++ printer.stdout tr := rfl
    rw [split, rest]
    cases result : e.call.isResult with
    | true => simp [results, result]
    | false =>
      have nothing : printer.printed e.call = [] := by
        obtain ⟨c, r⟩ := e
        cases c
        case boyLog level' format args =>
          apply quiet
          rintro rfl
          exact here rfl
        case boyLogStart operation => exact start operation
        all_goals first
          | rfl
          | cases result
      simp [results, result, nothing]

end BoyPrinter

/-- One table is rendered. Its text is printed if the request for its widths was
granted, and nothing is if it was refused. -/
def RendersOne (tr : List BoyEvent) : Prop :=
  ∃ table widths, results tr = [.appTableRender table widths] ∧ rendering table widths <:+: tr

/-- What a command is asked for. -/
def ResultOf : BoyMode → List BoyEvent → Prop
  | .showSpan, tr => RendersOne tr
  | .showMemif, tr => RendersOne tr
  | .showPhy, tr => RendersOne tr
  | .showCodeVersion, tr => results tr = [.appPrintVersion "boy"]
  | _, tr => results tr = []

/-- The outcome of a command, with what it printed. -/
def Outcome (mode : BoyMode) (rc : Int) (tr : List BoyEvent) : Prop :=
  rc = 1 ∧ ReportsError tr ∧ results tr = [] ∨
    rc = 0 ∧ (ReportsError tr → mode = .showPhy) ∧ ResultOf mode tr

theorem outcome_of_answered {mode : BoyMode} {rc : Int} {s : Said} {tr : List BoyEvent}
    (h : Answered mode rc s) (tracked : Tracks s tr) (asked : WidthsAsked tr) :
    Outcome mode rc tr := by
  have fails (code : rc = 1) (said : s = ⟨true, []⟩) : Outcome mode rc tr := by
    subst said
    exact .inl ⟨code, tracked.reported.1 rfl, tracked.printed.symm⟩
  have prints {printed : List BoyCall} (code : rc = 0) (said : s = ⟨false, printed⟩)
      (result : results tr = printed → ResultOf mode tr) : Outcome mode rc tr := by
    subst said
    refine .inr ⟨code, fun reported => ?_, result tracked.printed.symm⟩
    exact absurd (tracked.reported.2 reported) Bool.false_ne_true
  have alone (none : results tr = [] → ResultOf mode tr) (told : ToldAlone rc s) :
      Outcome mode rc tr := by
    rcases told with ⟨code, said⟩ | ⟨code, said⟩
    · exact fails code said
    · exact prints code said none
  have renders {table : AppTable} {widths : Bool}
      (one : results tr = [.appTableRender table widths]) : RendersOne tr :=
    ⟨table, widths, one, asked table widths (one ▸ List.mem_singleton_self _)⟩
  have one (result : RendersOne tr → ResultOf mode tr) (told : ToldTable rc s) :
      Outcome mode rc tr := by
    rcases told with ⟨code, said⟩ | ⟨code, table, widths, said⟩
    · exact fails code said
    · exact prints code said fun one => result (renders one)
  cases mode with
  | showVersion => exact alone id h
  | showSpan => exact one id h
  | showMemif => exact one id h
  | unsetSpan => exact alone id h
  | setSpan => exact alone id h
  | createMemif => exact alone id h
  | showPhy =>
    rcases h with ⟨code, said⟩ | ⟨code, table, widths, printed⟩
    · exact fails code said
    · exact .inr ⟨code, fun _ => rfl, renders (tracked.printed ▸ printed)⟩
  | showCodeVersion => exact prints h.1 h.2 id

/-- **What `boy` prints.** Every message fits its format. A command that returns 1
has printed an error, at every log level, and no result. One that returns 0 has
printed the result it was asked for, but for a table whose widths were refused,
of which it prints nothing; at `--log-level error`, and unless it is `--show-phy`,
it printed nothing else. -/
theorem boy_output {posixlyCorrect : Bool} {argv : List CString} {options : BoyCliOptions}
    {tr : List BoyEvent} {rc : Int}
    (parsed : boyParseCliOptions posixlyCorrect argv = .ok options)
    (run : Follows (boyMain posixlyCorrect argv) tr rc) (printer : BoyPrinter)
    (level : printer.logLevel = options.logLevel) :
    (∀ e ∈ tr, ∀ m ∈ printer.messages e.call, Fitting m.format m.args) ∧
      (rc = 1 ∧ results tr = [] ∧
          (∃ before message after,
            printer.stdout tr = before ++ "[ERROR] ".toList ++ message ++ '\n' :: after) ∨
        rc = 0 ∧ ResultOf options.mode tr ∧
          (options.logLevel = .error → options.mode ≠ .showPhy →
            printer.stdout tr = (results tr).flatMap printer.printed)) := by
  rw [boyMain, parsed] at run
  obtain ⟨said, passes, answered⟩ := (answered_boyRun options).follows run
  have tracked := tracks_of_passes passes
  refine ⟨fun e there => BoyPrinter.messages_fit (tracked.fitting e there), ?_⟩
  have outcome := outcome_of_answered answered tracked (asksWidths_boyRun options tr rc run)
  rcases outcome with ⟨code, reported, none⟩ | ⟨code, only_phy, asked⟩
  · exact .inl ⟨code, none, BoyPrinter.error_printed reported⟩
  · refine .inr ⟨code, asked, fun error other => ?_⟩
    exact BoyPrinter.stdout_eq_results (level.trans error) fun reported => other (only_phy reported)

def quietLine : List CString := ["boy".toList, "--log-level=error".toList, "--show-span".toList]

def quietShown : List BoyEvent × AnsweringVpp × Int :=
  (downVpp.run (boyMain false quietLine)).get (by decide)

def quietPrinter : BoyPrinter := ⟨"unknown".toList, 2410, "24.10".toList, .error, 80⟩

theorem quiet_show_prints_a_table : ResultOf .showSpan quietShown.1 ∧
    quietPrinter.stdout quietShown.1 = (results quietShown.1).flatMap quietPrinter.printed := by
  have parsed : boyParseCliOptions false quietLine =
      .ok { boyDefaultOptions with mode := .showSpan, logLevel := .error } := rfl
  have run : Follows (boyMain false quietLine) quietShown.1 0 :=
    (AnsweringVpp.exec_run_eq _ rfl).follows
  rcases (boy_output parsed run quietPrinter rfl).2 with ⟨failed, _⟩ | ⟨_, asked, alone⟩
  · cases failed
  · exact ⟨asked, alone rfl (by decide)⟩

end BeastieBoy
