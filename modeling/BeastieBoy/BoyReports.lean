import BeastieBoy.BoyLog
import BeastieBoy.SpanOrder
import BeastieBoy.VapiSession

/-!
# What `boy` reports

What a command says is an error message, a result (a table, or the version), or
neither of them. A command that returns 1 has reported an error, and shows no
result; one that returns 0 has reported none, and has shown what it is for.
-/

namespace BeastieBoy

open CLib Interact Interact.Prog

/-- What was said so far: whether an error was reported, and the results printed. -/
structure Said where
  failed : Bool
  results : List BoyCall

namespace Said

def nothing : Said := ⟨false, []⟩

def withError (s : Said) : Said := { s with failed := true }

def withResult (s : Said) (c : BoyCall) : Said := { s with results := s.results ++ [c] }

end Said

def BoyCall.isError : BoyCall → Bool
  | .boyLog .error _ _ => true
  | _ => false

/-- What a command was asked for. -/
def BoyCall.isResult : BoyCall → Bool
  | .appTableRender .. => true
  | .appPrintVersion _ => true
  | _ => false

def BoyCall.fitting : BoyCall → Bool
  | .boyLog _ format args => (vfprintf format.toList args).isSome
  | _ => true

def Said.after (s : Said) (c : BoyCall) : Said :=
  if c.isError then s.withError else if c.isResult then s.withResult c else s

/-- Everything may be said in words that fit their format. -/
def boySaying : Protocol BoyCall BoyReply Said :=
  ⟨fun s c => if c.fitting then some fun _ => s.after c else none⟩

def BoyCall.silent (c : BoyCall) : Bool := c.fitting && !c.isError && !c.isResult

abbrev Silent {α : Type} (p : Boy α) : Prop := p.Only (fun c => c.silent = true) fun _ => True

/-- An error is reported exactly where the answer is a failure. -/
def Tells {α : Type} (failed : α → Prop) (p : Boy α) : Prop :=
  ∀ s, p.Speaks boySaying (fun a s' => failed a ∧ s' = s.withError ∨ ¬ failed a ∧ s' = s) s

abbrev TellsAttempt {α : Type} (m : Attempt α) : Prop := Tells (· = none) m.run

/-- An error is reported, and nothing else said. -/
def Complains {α : Type} (p : Boy α) : Prop :=
  ∀ s, p.Speaks boySaying (fun _ s' => s' = s.withError) s

section Rules
variable {α β : Type}

theorem silent_call {c : BoyCall} (h : c.silent = true) : Silent (boyCall c) :=
  ⟨h, fun _ => trivial⟩

theorem Silent.bind {p : Boy α} {f : α → Boy β} (hp : Silent p) (hf : ∀ a, Silent (f a)) :
    Silent (p >>= f) :=
  Only.bind hp fun a _ => hf a

theorem MemoryOnly.silent {p : Boy α} (h : MemoryOnly p) : Silent p := by
  apply h.mono
  · intro c memory
    cases c
    all_goals first
      | rfl
      | cases memory
  · exact fun _ _ => trivial

theorem Silent.speaks {p : Boy α} (h : Silent p) (s : Said) :
    p.Speaks boySaying (fun _ s' => s' = s) s := by
  have stays (c : BoyCall) (silent : c.silent = true) : boySaying.next s c = some fun _ => s := by
    simp only [BoyCall.silent, Bool.and_eq_true, Bool.not_eq_true'] at silent
    simp [boySaying, Said.after, silent]
  exact (Only.speaks h stays).mono fun _ _ same => same.2

theorem tells_pure {failed : α → Prop} {a : α} (fine : ¬ failed a) : Tells failed (pure a) :=
  fun _ => .inr ⟨fine, rfl⟩

theorem Silent.tells_bind {failed : β → Prop} {p : Boy α} {f : α → Boy β} (hp : Silent p)
    (hf : ∀ a, Tells failed (f a)) : Tells failed (p >>= f) := by
  intro s
  apply (hp.speaks s).bind
  rintro a _ rfl
  exact hf a _

theorem complains_log {format : String} {args : List BoyLogArg} (fits : Fitting format args) :
    Complains (boyLog .error format args) :=
  fun _ => ⟨_, if_pos fits, fun _ => rfl⟩

/-- Behind a report there is the failure. -/
theorem Complains.tells {failed : β → Prop} {p : Boy α} {b : β} (hp : Complains p)
    (fails : failed b) :
    Tells failed (p >>= fun _ => pure b) := by
  intro s
  apply (hp s).bind
  rintro _ _ rfl
  exact .inl ⟨fails, rfl⟩

theorem Tells.attempt {m : Attempt α} {f : α → Attempt β} (hm : TellsAttempt m)
    (hf : ∀ a, TellsAttempt (f a)) :
    TellsAttempt (m >>= f) := by
  intro s
  apply (hm s).attempt
  · rintro _ (⟨_, rfl⟩ | ⟨no, _⟩)
    · exact .inl ⟨rfl, rfl⟩
    · exact absurd rfl no
  · rintro a _ (⟨no, _⟩ | ⟨_, rfl⟩)
    · cases no
    · exact hf a _

theorem tells_some (a : α) : TellsAttempt (pure a : Attempt α) := tells_pure (Option.some_ne_none a)

theorem Silent.lift {p : Boy α} (h : Silent p) : TellsAttempt (liftM p : Attempt α) :=
  h.tells_bind tells_some

theorem tells_orCleanup {m : Boy (Int × α)} (h : Tells (·.1 ≠ 0) m) :
    TellsAttempt (orCleanup m) := by
  intro s
  apply (h s).bind
  rintro r _ (⟨failed, rfl⟩ | ⟨fine, rfl⟩)
  · exact .inl ⟨if_pos failed, rfl⟩
  · exact .inr ⟨by simp [fine], rfl⟩

theorem tells_unlessZero {m : Boy Int} (h : Tells (· ≠ 0) m) : TellsAttempt (unlessZero m) := by
  intro s
  apply (h s).bind
  rintro r _ (⟨failed, rfl⟩ | ⟨fine, rfl⟩)
  · exact .inl ⟨if_pos failed, rfl⟩
  · exact .inr ⟨by simp [fine], rfl⟩

theorem tells_complaint {failed : β → Prop} {format : String} {args : List BoyLogArg} {b : β}
    (fits : Fitting format args) (fails : failed b) :
    Tells failed (boyLog .error format args >>= fun _ => pure b) :=
  (complains_log fits).tells fails

theorem tells_logThenCleanup {format : String} {args : List BoyLogArg}
    (fits : Fitting format args) :
    TellsAttempt (logThenCleanup format args : Attempt α) := tells_complaint fits rfl

end Rules

/-! ## Requests -/

theorem tells_boySimpleRequest {message : String} {send : Boy VapiAnswer} (hsend : Silent send)
    {cb : VapiError → Option Int → Boy (VapiError × BoySimpleReplyResult)}
    {failed : VapiError → Boy Unit} {noReply : Boy Unit} {refused : Int → Boy Unit}
    (names : Fitting ("vapi_alloc_" ++ message ++ " failed") [])
    (hcb : ∀ rv reply, MemoryOnly (cb rv reply)) (hfailed : ∀ err, Complains (failed err))
    (hnoReply : Complains noReply) (hrefused : ∀ retval, Complains (refused retval)) :
    Tells (· ≠ 0) (boySimpleRequest message send cb failed noReply refused) := by
  apply (silent_call rfl).tells_bind
  intro allocated
  split
  · apply hsend.tells_bind
    intro answer
    have judged : MemoryOnly (runSimpleCb cb answer) := by
      cases answer with
      | silent err => trivial
      | replied rv reply => exact hcb rv reply
    apply judged.silent.tells_bind
    intro result
    split
    · exact (hfailed _).tells (by decide)
    · split
      · exact hnoReply.tells (by decide)
      · split
        · exact (hrefused _).tells (by decide)
        · exact tells_pure (not_not.2 rfl)
  · exact tells_complaint names (by decide)

theorem tells_boySetInterfaceAdminUp (swIfIndex : UInt32) :
    Tells (· ≠ 0) (boySetInterfaceAdminUp swIfIndex) := by
  apply tells_boySimpleRequest (silent_call rfl) (by rfl)
  · intro rv reply
    unfold boySwInterfaceSetFlagsCb
    split
    · trivial
    · trivial
  · exact fun _ => complains_log (by rfl)
  · exact complains_log (by rfl)
  · exact fun _ => complains_log (by rfl)

theorem tells_boySetSpanEntry (swIfIndexFrom swIfIndexTo : UInt32) (state : SpanState)
    (isL2 : Bool) :
    Tells (· ≠ 0) (boySetSpanEntry swIfIndexFrom swIfIndexTo state isL2) := by
  apply tells_boySimpleRequest (silent_call rfl) (by rfl)
  · intro rv reply
    unfold boySpanEnableDisableCb
    split
    · trivial
    · split
      · trivial
      · exact memoryOnly_stuck
  · exact fun _ => complains_log (by rfl)
  · exact complains_log (by rfl)
  · exact fun _ => complains_log (by rfl)

theorem tells_boyCollect {Details Entry : Type} {message : String} {send : Boy (VapiDump Details)}
    (hsend : Silent send) (names : Fitting ("vapi_alloc_" ++ message ++ " failed") [])
    (names_failure : ∀ err,
      Fitting ("vapi_" ++ message ++ " failed: %s") [.str (boyVapiErrorStr err)])
    (itemSize : Nat) (entry : Details → Entry) (table : BoyTable Entry) :
    Tells (·.1 ≠ 0) (boyCollect message send (boyDumpCb itemSize entry) table) := by
  apply (silent_call rfl).tells_bind
  intro allocated
  split
  · apply hsend.tells_bind
    intro dump
    apply (memoryOnly_runDumpCallbacks _ _ _ _).silent.tells_bind
    intro result
    generalize (if result.1 ≠ .ok then result.1 else dump.err) = err
    simp only
    split
    · exact tells_complaint (names_failure _) (show (1 : Int) ≠ 0 by decide)
    · exact tells_pure (not_not.2 rfl)
  · exact tells_complaint names (show (1 : Int) ≠ 0 by decide)

/-- The context is open, or the reason was reported. -/
theorem tells_boyOpenVapi : Tells (·.1 ≠ 0) boyOpenVapi := by
  apply (silent_call rfl).tells_bind
  intro err
  split
  · exact tells_complaint (by rfl) (show (1 : Int) ≠ 0 by decide)
  · apply (silent_call rfl).tells_bind
    intro err
    split
    · intro s
      apply (complains_log (by rfl) s).bind
      rintro _ _ rfl
      exact ⟨_, rfl, fun _ => .inl ⟨by decide, rfl⟩⟩
    · exact tells_pure (not_not.2 rfl)

theorem silent_boyCloseVapi (ctx : Bool) : Silent (boyCloseVapi ctx) := by
  unfold boyCloseVapi
  split
  · exact (silent_call rfl).bind fun _ => silent_call rfl
  · trivial

theorem tells_gotInterfaces (table : BoyInterfaceTable) :
    TellsAttempt (orCleanup (boyCollectInterfaces table)) :=
  tells_orCleanup (tells_boyCollect (silent_call rfl) (by rfl) (fun _ => by rfl) _ _ _)

theorem tells_gotSpan (isL2 : Bool) (table : BoySpanTable) :
    TellsAttempt (orCleanup (boyCollectSpan isL2 table)) :=
  tells_orCleanup (tells_boyCollect (silent_call rfl) (by rfl) (fun _ => by rfl) _ _ _)

theorem tells_gotMemif (table : BoyMemifTable) : TellsAttempt (orCleanup (boyCollectMemif table)) :=
  tells_orCleanup (tells_boyCollect (silent_call rfl) (by rfl) (fun _ => by rfl) _ _ _)

/-! ## Tables -/

theorem tells_table {columns : List AppTableColumn} {message : String} (fits : Fitting message []) :
    TellsAttempt (OptionT.mk (appTableInit columns >>= fun o =>
      match o with
      | none => boyLog .error message [] >>= fun _ => pure none
      | some table => pure (some table)) : Attempt AppTable) := by
  apply (memoryOnly_appTableInit columns).silent.tells_bind
  intro o
  cases o with
  | none => exact tells_complaint fits rfl
  | some table => exact tells_some _

theorem tells_row {table : AppTable} {cells : List (Option CString)} {message : String}
    (fits : Fitting message []) :
    TellsAttempt (OptionT.mk (appTableAddRow table cells >>= fun added =>
      if added.1 ≠ 0 then boyLog .error message [] >>= fun _ => pure none
      else pure (some added.2)) : Attempt AppTable) := by
  apply (memoryOnly_appTableAddRow table cells).silent.tells_bind
  intro added
  split
  · exact tells_complaint fits rfl
  · exact tells_some _

theorem tells_showSpanEntries (interfaces : List BoyInterfaceEntry) (ifEntry : BoyInterfaceEntry)
    (entries : List BoySpanEntry) (table : AppTable) (found : Bool) :
    TellsAttempt (showSpanEntries interfaces ifEntry entries table found) := by
  induction entries generalizing table found with
  | nil => exact tells_some _
  | cons entry entries ih =>
    unfold showSpanEntries
    split
    · exact ih table found
    · exact Tells.attempt (tells_row (by rfl)) fun table => ih table true

theorem tells_showSpanInterfaces (interfaces : List BoyInterfaceEntry) (entries : List BoySpanEntry)
    (rest : List BoyInterfaceEntry) (table : AppTable) :
    TellsAttempt (showSpanInterfaces interfaces entries rest table) := by
  induction rest generalizing table with
  | nil => exact tells_some _
  | cons ifEntry rest ih =>
    unfold showSpanInterfaces
    split
    · exact ih table
    · apply (tells_showSpanEntries _ _ _ _ _).attempt
      intro shown
      have last : TellsAttempt (showNoSpanEntry ifEntry shown) := by
        unfold showNoSpanEntry
        split
        · exact tells_some _
        · exact tells_row (by rfl)
      exact last.attempt ih

theorem tells_showMemifEntries (entries : List BoyMemifEntry) (table : AppTable) :
    TellsAttempt (showMemifEntries entries table) := by
  induction entries generalizing table with
  | nil => exact tells_some _
  | cons entry entries ih => exact Tells.attempt (tells_row (by rfl)) ih

theorem tells_showPhyInterfaces (entries : List BoyInterfaceEntry) (table : AppTable)
    (shown : Nat) :
    TellsAttempt (showPhyInterfaces entries table shown) := by
  induction entries generalizing table shown with
  | nil => exact tells_some _
  | cons entry entries ih =>
    unfold showPhyInterfaces
    split
    · exact ih table shown
    · exact Tells.attempt (tells_row (by rfl)) fun table => ih table _

/-! ## Commands without a table -/

/-- The exit code of a command without a table: an error was reported exactly if
it is 1. -/
def ToldAlone (rc : Int) (s : Said) : Prop := rc = 1 ∧ s = ⟨true, []⟩ ∨ rc = 0 ∧ s = .nothing

/-- The same of a command that shows one table. -/
def ToldTable (rc : Int) (s : Said) : Prop :=
  rc = 1 ∧ s = ⟨true, []⟩ ∨ rc = 0 ∧ ∃ table widths, s = ⟨false, [.appTableRender table widths]⟩

/-- The command says what its body says, or why there is no context. -/
theorem told_withVapi {R : Int → Said → Prop} {operation : String} {body : Attempt Unit}
    (h : body.run.Speaks boySaying (fun o s => R (if o.isSome then 0 else 1) s) .nothing)
    (unopened : R 1 ⟨true, []⟩) : (withVapi operation body).Speaks boySaying R .nothing := by
  refine ⟨_, rfl, fun _ => ?_⟩
  apply (tells_boyOpenVapi .nothing).bind
  intro opened s outcome
  have closes (rc : Int) (s : Said) (told : R rc s) :
      (boyCloseVapi opened.2 >>= fun _ => pure rc).Speaks boySaying R s := by
    apply ((silent_boyCloseVapi opened.2).speaks s).bind
    rintro _ _ rfl
    exact told
  rcases outcome with ⟨failed, rfl⟩ | ⟨fine, rfl⟩
  · rw [cleanupCode, if_pos failed]
    exact closes 1 _ unopened
  · rw [cleanupCode, if_neg fine]
    have coded : (body.run >>= fun finished =>
        pure (if finished.isSome then 0 else 1)).Speaks boySaying R .nothing :=
      Speaks.bind h fun _ _ told => told
    exact coded.bind closes

theorem toldAlone_withVapi {operation : String} {body : Attempt Unit} (h : TellsAttempt body) :
    (withVapi operation body).Speaks boySaying ToldAlone .nothing := by
  refine told_withVapi ?_ (.inl ⟨rfl, rfl⟩)
  apply (h .nothing).mono
  rintro o _ (⟨rfl, rfl⟩ | ⟨some, rfl⟩)
  · exact .inl ⟨rfl, rfl⟩
  · obtain ⟨_, rfl⟩ := Option.ne_none_iff_exists'.1 some
    exact .inr ⟨rfl, rfl⟩

theorem tells_unsetSpanEntries (interfaces : List BoyInterfaceEntry) (sourceIfIndex : UInt32)
    (entries : List BoySpanEntry) (removed : Nat) :
    TellsAttempt (unsetSpanEntries interfaces sourceIfIndex entries removed) := by
  induction entries generalizing removed with
  | nil => exact tells_some _
  | cons entry entries ih =>
    unfold unsetSpanEntries
    split
    · exact ih removed
    · apply (silent_call rfl).lift.attempt
      intro _
      exact (tells_unlessZero (tells_boySetSpanEntry _ _ _ _)).attempt fun _ => ih _

theorem tells_unsetSpanBody (sourceIfIndex : UInt32) :
    TellsAttempt (unsetSpanBody sourceIfIndex) := by
  apply (tells_gotInterfaces _).attempt
  intro interfaces
  apply (tells_gotSpan _ _).attempt
  intro entries
  apply (tells_gotSpan _ _).attempt
  intro entries
  apply (tells_unsetSpanEntries _ _ _ _).attempt
  intro removed
  apply Silent.lift
  unfold reportRemoved
  split
  · exact silent_call rfl
  · exact silent_call rfl

theorem tells_bringUp {role : String} (entry : BoyInterfaceEntry)
    (fits : Fitting (role ++ " interface %s(%u) is admin-down, setting it admin-up")
      [.str entry.interfaceName, .u32 entry.swIfIndex]) : TellsAttempt (bringUp role entry) := by
  unfold bringUp
  split
  · have silent : (BoyCall.boyLog .info
        (role ++ " interface %s(%u) is admin-down, setting it admin-up")
        [.str entry.interfaceName, .u32 entry.swIfIndex]).silent = true := by
      have fitting : (BoyCall.boyLog .info
          (role ++ " interface %s(%u) is admin-down, setting it admin-up")
          [.str entry.interfaceName, .u32 entry.swIfIndex]).fitting = true := fits
      rw [BoyCall.silent, fitting]
      rfl
    exact (silent_call silent).lift.attempt fun _ =>
      tells_unlessZero (tells_boySetInterfaceAdminUp _)
  · exact tells_some _

theorem tells_setSpanBody (sourceIfIndex : UInt32) (destinationMemifName : CString)
    (deviceMode : BoySpanDeviceMode) :
    TellsAttempt (setSpanBody sourceIfIndex destinationMemifName deviceMode) := by
  apply (tells_gotInterfaces _).attempt
  intro interfaces
  unfold checkedSpan
  split
  · exact tells_logThenCleanup (by rfl)
  · split
    · exact tells_logThenCleanup (by rfl)
    · split
      · exact tells_logThenCleanup (by rfl)
      · split
        · exact tells_logThenCleanup (by rfl)
        · apply (tells_bringUp _ (by rfl)).attempt
          intro _
          apply (tells_bringUp _ (by rfl)).attempt
          intro _
          apply (silent_call rfl).lift.attempt
          intro _
          apply (tells_unlessZero (tells_boySetSpanEntry _ _ _ _)).attempt
          exact fun _ => (silent_call rfl).lift

theorem silent_runReturnCb {Payload Result : Type}
    {cb : VapiError → Option Payload → Boy (VapiError × Option Result)}
    (hcb : ∀ rv reply, MemoryOnly (cb rv reply)) (answer : VapiReturn Payload) :
    Silent (runReturnCb cb answer) := by
  cases answer with
  | silent err => trivial
  | replied rv reply => exact (hcb rv reply).silent

/-- Two messages are one report. -/
theorem tells_memifCreated (options : BoyMemifCreateOptions) (swIfIndex : UInt32) :
    TellsAttempt (memifCreated options swIfIndex) := by
  intro s
  apply Speaks.bind
    (R := fun o s' => o = some 0 ∧ s' = s ∨ (∃ rc, o = some rc ∧ rc ≠ 0) ∧ s' = s.withError)
  · apply (tells_boySetInterfaceAdminUp swIfIndex s).bind
    rintro rc _ (⟨failed, rfl⟩ | ⟨fine, rfl⟩)
    · exact .inr ⟨⟨rc, rfl, failed⟩, rfl⟩
    · exact .inl ⟨congrArg some (not_not.1 fine), rfl⟩
  · rintro _ s' (⟨rfl, rfl⟩ | ⟨⟨rc, rfl, failed⟩, rfl⟩)
    · exact Silent.lift (silent_call rfl) s'
    · dsimp only
      rw [if_pos failed]
      refine ⟨_, rfl, fun _ => .inl ⟨rfl, rfl⟩⟩

theorem tells_createMemifBody (options : BoyMemifCreateOptions) :
    TellsAttempt (createMemifBody options) := by
  apply (silent_call rfl).lift.attempt
  intro allocated
  split
  · apply (silent_call rfl).lift.attempt
    intro answer
    have judged : Silent (runReturnCb boyMemifCreateCb answer) := by
      apply silent_runReturnCb
      intro rv reply
      unfold boyMemifCreateCb
      split
      · trivial
      · split
        · trivial
        · exact memoryOnly_stuck
    apply judged.lift.attempt
    intro result
    split
    · exact tells_logThenCleanup (by rfl)
    · split
      · exact tells_logThenCleanup (by rfl)
      · split
        · exact tells_logThenCleanup (by rfl)
        · exact tells_memifCreated _ _
  · exact tells_logThenCleanup (by rfl)

theorem tells_showVersionBody : TellsAttempt showVersionBody := by
  apply (silent_call rfl).lift.attempt
  intro allocated
  split
  · apply (silent_call rfl).lift.attempt
    intro answer
    have judged : Silent (runReturnCb boyShowVersionCb answer) := by
      apply silent_runReturnCb
      intro rv reply
      unfold boyShowVersionCb
      split
      · trivial
      · split
        · trivial
        · exact memoryOnly_stuck
    apply judged.lift.attempt
    intro result
    split
    · exact tells_logThenCleanup (by rfl)
    · split
      · exact tells_logThenCleanup (by rfl)
      · unfold reportVersion
        split
        · exact tells_logThenCleanup (by rfl)
        · apply (silent_call rfl).lift.attempt
          intro _
          apply (silent_call rfl).lift.attempt
          intro _
          exact (silent_call rfl).lift.attempt fun _ => (silent_call rfl).lift
  · exact tells_logThenCleanup (by rfl)

/-! ## Commands with a table -/

/-- What the body of a command leaves said. -/
abbrev Leads (R : Int → Said → Prop) (body : Attempt Unit) (s : Said) : Prop :=
  body.run.Speaks boySaying (fun o s => R (if o.isSome then 0 else 1) s) s

/-- Something that may fail, before any table was shown. -/
theorem TellsAttempt.leads {α : Type} {R : Int → Said → Prop} {m : Attempt α} {f : α → Attempt Unit}
    {s : Said} (hm : TellsAttempt m) (no_table : s.results = []) (fails : R 1 ⟨true, []⟩)
    (hf : ∀ a, Leads R (f a) s) :
    Leads R (m >>= f) s := by
  apply (hm s).attempt
  · rintro _ (⟨_, rfl⟩ | ⟨no, _⟩)
    · obtain ⟨failed, tables⟩ := s
      obtain rfl : tables = [] := no_table
      exact fails
    · exact absurd rfl no
  · rintro a _ (⟨no, _⟩ | ⟨_, rfl⟩)
    · cases no
    · exact hf a

/-- One result more, printed or not. -/
theorem speaks_runAppTableRender (table : AppTable) (s : Said) :
    (runAppTableRender table).Speaks boySaying
      (fun _ s' => ∃ widths, s' = s.withResult (.appTableRender table widths)) s := by
  unfold runAppTableRender
  split
  · exact ⟨_, rfl, fun _ => ⟨false, rfl⟩⟩
  · exact ⟨_, rfl, fun widths => ⟨_, rfl, fun _ => ⟨widths, rfl⟩⟩⟩

theorem leads_render (table : AppTable) :
    Leads ToldTable (liftM (runAppTableRender table)) .nothing := by
  apply (speaks_runAppTableRender table .nothing).bind
  rintro _ _ ⟨widths, rfl⟩
  exact .inr ⟨rfl, table, widths, rfl⟩

theorem toldTable_failed : ToldTable 1 ⟨true, []⟩ := .inl ⟨rfl, rfl⟩

theorem leads_showSpanBody : Leads ToldTable showSpanBody .nothing := by
  apply (tells_gotInterfaces _).leads rfl toldTable_failed
  intro interfaces
  apply (tells_gotSpan _ _).leads rfl toldTable_failed
  intro entries
  apply (tells_gotSpan _ _).leads rfl toldTable_failed
  intro entries
  apply TellsAttempt.leads (tells_table (by rfl)) rfl toldTable_failed
  intro table
  apply (tells_showSpanInterfaces _ _ _ _).leads rfl toldTable_failed
  exact leads_render

theorem leads_showMemifBody : Leads ToldTable showMemifBody .nothing := by
  apply (tells_gotMemif _).leads rfl toldTable_failed
  intro entries
  apply TellsAttempt.leads (tells_table (by rfl)) rfl toldTable_failed
  intro table
  apply (tells_showMemifEntries _ _).leads rfl toldTable_failed
  exact leads_render

/-! ## Card families -/

/-- Of a command that goes on behind an error: it may have reported one and show
its table. -/
def ToldFamilies (rc : Int) (s : Said) : Prop :=
  rc = 1 ∧ s = ⟨true, []⟩ ∨ rc = 0 ∧ ∃ table widths, s.results = [.appTableRender table widths]

theorem toldFamilies_failed : ToldFamilies 1 ⟨true, []⟩ := .inl ⟨rfl, rfl⟩

/-- The card families are there in any case, but what went wrong may be reported. -/
theorem speaks_cardFamilies (interfaces : List BoyInterfaceEntry) (s : Said) :
    (cardFamilies interfaces).Speaks boySaying (fun _ s' => s'.results = s.results) s := by
  have reported (level : AppLogLevel) (format : String) (args : List BoyLogArg)
      (fits : Fitting format args) :
      (boyLog level format args >>= fun _ => pure (1, none) : Boy (Int × Option CString)).Speaks
        boySaying (fun _ s' => s'.results = s.results) s := by
    refine ⟨_, if_pos fits, fun _ => ?_⟩
    cases level
    all_goals rfl
  have fetched :
      boyFetchShowHardwareOutput.Speaks boySaying (fun _ s' => s'.results = s.results) s := by
    apply ((silent_call rfl).speaks s).bind
    rintro allocated _ rfl
    split
    · apply ((silent_call rfl).speaks _).bind
      rintro answer _ rfl
      apply ((silent_runReturnCb memoryOnly_boyCliInbandCb answer).speaks _).bind
      rintro result _ rfl
      split
      · exact reported _ _ _ (by rfl)
      · split
        · exact reported _ _ _ (by rfl)
        · split
          · exact reported _ _ _ (by rfl)
          · rfl
    · exact reported _ _ _ (by rfl)
  apply fetched.bind
  intro r s' same
  split
  · apply ((memoryOnly_boyOverride _ _).silent.speaks s').mono
    rintro _ _ rfl
    exact same
  · exact ⟨_, rfl, fun _ => same⟩

theorem leads_showPhyBody : Leads ToldFamilies showPhyBody .nothing := by
  apply (tells_gotInterfaces _).leads rfl toldFamilies_failed
  intro interfaces
  apply Speaks.attempt (R := fun o s => o.isSome ∧ s.results = [])
  · exact (speaks_cardFamilies interfaces.entries .nothing).bind fun entries s none => ⟨rfl, none⟩
  · rintro s ⟨no, _⟩
    cases no
  · rintro entries s ⟨_, none⟩
    apply TellsAttempt.leads (tells_table (by rfl)) none toldFamilies_failed
    intro table
    apply (tells_showPhyInterfaces _ _ _).leads none toldFamilies_failed
    intro shown
    have rendered : (liftM (runAppTableRender shown.1) : Attempt Unit).run.Speaks boySaying
        (fun o s' => o.isSome ∧ ∃ widths, s'.results = [.appTableRender shown.1 widths]) s := by
      apply (speaks_runAppTableRender shown.1 s).bind
      rintro _ _ ⟨widths, rfl⟩
      refine ⟨rfl, widths, ?_⟩
      rw [Said.withResult, none, List.nil_append]
    apply Speaks.attempt rendered
    · rintro _ ⟨no, _⟩
      cases no
    · rintro _ s' ⟨_, widths, one⟩
      change Leads ToldFamilies
        (if shown.2 = 0 then liftM (boyLog .info "no physical interfaces found" []) else pure ()) s'
      split
      · exact ⟨_, rfl, fun _ => .inr ⟨rfl, _, widths, one⟩⟩
      · exact .inr ⟨rfl, _, widths, one⟩

/-! ## All of `boy` -/

/-- What was said behind a command of this mode. -/
def Answered : BoyMode → Int → Said → Prop
  | .showSpan => ToldTable
  | .showMemif => ToldTable
  | .showPhy => ToldFamilies
  | .showCodeVersion => fun rc s => rc = 0 ∧ s = ⟨false, [.appPrintVersion "boy"]⟩
  | _ => ToldAlone

theorem answered_boyRun (options : BoyCliOptions) :
    (boyRun options).Speaks boySaying (Answered options.mode) .nothing := by
  unfold boyRun
  cases options.mode with
  | showCodeVersion => exact ⟨_, rfl, fun _ => ⟨rfl, rfl⟩⟩
  | setSpan =>
    cases options.setSpanMemifName with
    | none => exact ⟨_, rfl, nofun⟩
    | some name => exact toldAlone_withVapi (tells_setSpanBody _ _ _)
  | unsetSpan => exact toldAlone_withVapi (tells_unsetSpanBody _)
  | showMemif => exact told_withVapi leads_showMemifBody toldTable_failed
  | createMemif => exact toldAlone_withVapi (tells_createMemifBody _)
  | showPhy => exact told_withVapi leads_showPhyBody toldFamilies_failed
  | showSpan => exact told_withVapi leads_showSpanBody toldTable_failed
  | showVersion => exact toldAlone_withVapi tells_showVersionBody

def ReportsError (tr : List BoyEvent) : Prop := ∃ e ∈ tr, e.call.isError = true

def results (tr : List BoyEvent) : List BoyCall := (tr.map fun e => e.call).filter (·.isResult)

theorem results_append (t u : List BoyEvent) : results (t ++ u) = results t ++ results u := by
  rw [results, List.map_append, List.filter_append]
  rfl

theorem BoyCall.isResult_of_isError {c : BoyCall} (error : c.isError = true) :
    c.isResult = false := by
  cases c
  all_goals first
    | rfl
    | cases error

/-- What the phase says of the events. -/
structure Tracks (s : Said) (tr : List BoyEvent) : Prop where
  reported : s.failed = true ↔ ReportsError tr
  printed : s.results = results tr
  fitting : ∀ e ∈ tr, e.call.fitting = true

theorem Tracks.concat {s : Said} {tr : List BoyEvent} {e : BoyEvent} (h : Tracks s tr)
    (fits : e.call.fitting = true) :
    Tracks (s.after e.call) (tr ++ [e]) := by
  have last (p : BoyEvent → Prop) : (∃ e' ∈ tr ++ [e], p e') ↔ (∃ e' ∈ tr, p e') ∨ p e := by
    simp [or_and_right, exists_or]
  constructor
  · rw [ReportsError, last, ← ReportsError, ← h.reported]
    cases error : e.call.isError with
    | true => simp [Said.after, error, Said.withError]
    | false =>
      cases result : e.call.isResult with
      | true => simp [Said.after, error, result, Said.withResult]
      | false => simp [Said.after, error, result]
  · rw [results_append, ← h.printed]
    cases error : e.call.isError with
    | true => simp [Said.after, error, Said.withError, results, BoyCall.isResult_of_isError error]
    | false =>
      cases result : e.call.isResult with
      | true => simp [Said.after, error, result, Said.withResult, results]
      | false => simp [Said.after, error, result, results]
  · intro e' there
    rcases List.mem_append.1 there with earlier | now
    · exact h.fitting e' earlier
    · rw [List.mem_singleton.1 now]
      exact fits

theorem tracks_of_passes {s : Said} {tr : List BoyEvent} (h : boySaying.Passes .nothing tr s) :
    Tracks s tr := by
  have start : Tracks .nothing [] := ⟨by simp [Said.nothing, ReportsError], rfl, by simp⟩
  refine h.keeps (I := Tracks) ?_ start
  intro s e behind t allowed tracked
  simp only [boySaying] at allowed
  split at allowed
  · rename_i fits
    cases allowed
    exact tracked.concat fits
  · cases allowed

end BeastieBoy
