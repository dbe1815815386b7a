import BeastieBoy.SpanCmd
import BeastieBoy.Vpp

/-!
# What the SPAN commands ask of VPP

The visible events of a run of `boy` are its dumps and requests, the rendered
table, and what is logged as a warning or for information. For each function this
says which visible events it makes and what it answers, and that it succeeds if
every reply is good.
-/

namespace BeastieBoy

open CLib Interact Interact.Prog

def BoyCall.visible : BoyCall → Bool
  | .swInterfaceDump => true
  | .swInterfaceSpanDump _ => true
  | .swInterfaceSetFlags .. => true
  | .swInterfaceSpanEnableDisable .. => true
  | .memifDump => true
  | .memifCreate _ => true
  | .cliInband _ => true
  | .showVersion => true
  | .appTableRender .. => true
  | .boyLog .warning .. => true
  | .boyLog .info .. => true
  | _ => false

def visible (tr : List BoyEvent) : List BoyEvent := tr.filter (·.call.visible)

@[simp] theorem visible_nil : visible [] = [] := rfl

@[simp] theorem visible_append (t₁ t₂ : List BoyEvent) :
    visible (t₁ ++ t₂) = visible t₁ ++ visible t₂ := List.filter_append t₁ t₂

theorem mem_of_mem_visible {tr : List BoyEvent} {e : BoyEvent} (h : e ∈ visible tr) : e ∈ tr :=
  (List.mem_filter.mp h).1

theorem filterMap_visible {O : Type} {f : BoyEvent → Option O}
    (h : ∀ e : BoyEvent, e.call.visible = false → f e = none) (tr : List BoyEvent) :
    (visible tr).filterMap f = tr.filterMap f := by
  induction tr with
  | nil => rfl
  | cons e tr ih =>
    cases seen : e.call.visible with
    | true =>
      have head : visible (e :: tr) = e :: visible tr := List.filter_cons_of_pos seen
      rw [head, List.filterMap_cons, List.filterMap_cons, ih]
    | false =>
      have tail : visible (e :: tr) = visible tr := List.filter_cons_of_neg (by simp [seen])
      rw [tail, ih, List.filterMap_cons, h e seen]

theorem spanRequest_unseen (e : BoyEvent) (hidden : e.call.visible = false) :
    spanRequest e = none := by
  obtain ⟨c, r⟩ := e
  cases c with
  | swInterfaceSpanEnableDisable => cases hidden
  | _ => rfl

theorem spanRequests_visible (tr : List BoyEvent) : spanRequests (visible tr) = spanRequests tr :=
  filterMap_visible spanRequest_unseen tr

theorem spanWrites_visible (tr : List BoyEvent) : spanWrites (visible tr) = spanWrites tr := by
  simp only [spanWrites, spanRequests_visible]

/-- The count `boy_unset_span` reports. -/
def removedReport : BoyEvent → Option Nat
  | ⟨.boyLog .warning _ _, _⟩ => some 0
  | ⟨.boyLog .info _ (.size removed :: _), _⟩ => some removed
  | _ => none

theorem removedReport_visible (tr : List BoyEvent) :
    (visible tr).filterMap removedReport = tr.filterMap removedReport := by
  apply filterMap_visible
  rintro ⟨c, r⟩ hidden
  cases c with
  | boyLog level format args =>
    cases level with
    | warning => cases hidden
    | info => cases hidden
    | error => rfl
    | debug => rfl
  | _ => rfl

/-- VPP changes nothing at an event nobody sees. -/
theorem serves_visible {w w' : Vpp} {tr : List BoyEvent} (h : Serves vppServe w tr w') :
    Serves vppServe w (visible tr) w' := by
  induction h with
  | nil s => exact .nil s
  | @cons s s' s'' e tr step rest ih =>
    cases seen : e.call.visible with
    | true =>
      have head : visible (e :: tr) = e :: visible tr := List.filter_cons_of_pos seen
      rw [head]
      exact .cons step ih
    | false =>
      have tail : visible (e :: tr) = visible tr := List.filter_cons_of_neg (by simp [seen])
      have same : s' = s := by
        obtain ⟨c, r⟩ := e
        cases c with
        | swInterfaceDump => cases seen
        | swInterfaceSpanDump => cases seen
        | swInterfaceSetFlags => cases seen
        | swInterfaceSpanEnableDisable => cases seen
        | memifCreate => cases seen
        | _ => exact step
      rw [tail]
      exact same ▸ ih

/-- No visible event, and an answer that satisfies `R`. -/
abbrev Quiet {α : Type} (R : α → Prop) (p : Boy α) : Prop := p.Only (fun c => c.visible = false) R

theorem visible_of_quiet {α : Type} {R : α → Prop} {p : Boy α} {tr : List BoyEvent} {a : α}
    (h : Follows p tr a) (hp : Quiet R p) : visible tr = [] ∧ R a := by
  obtain ⟨calls, answer⟩ := h.of_only hp
  refine ⟨?_, answer⟩
  apply List.filter_eq_nil_iff.2
  intro e he
  simp [calls e he]

theorem begins_of_quiet {α : Type} {R : α → Prop} {p : Boy α} {tr : List BoyEvent}
    (h : Begins p tr) (hp : Quiet R p) : visible tr = [] :=
  List.filter_eq_nil_iff.2 fun e he => by simp [h.of_only hp e he]

/-- Every good reply is enough for an answer that satisfies `R`. -/
abbrev Succeeds {α : Type} (R : α → Prop) (p : Boy α) : Prop := p.Given Acknowledged R

theorem quiet_call {c : BoyCall} (h : c.visible = false) : Quiet (fun _ => True) (boyCall c) :=
  ⟨h, fun _ => trivial⟩

theorem quiet_error (format : String) (args : List BoyLogArg) :
    Quiet (fun _ => True) (boyLog .error format args) := quiet_call rfl

theorem quiet_stuck {α : Type} {R : α → Prop} : Quiet R (stuck : Boy α) := ⟨rfl, nofun⟩

theorem quiet_boyOpenVapi : Quiet (fun _ => True) boyOpenVapi := by
  apply (quiet_call rfl).bind
  intro err _
  split
  · exact (quiet_error _ _).bind fun _ _ => trivial
  · apply (quiet_call rfl).bind
    intro err _
    split
    · exact (quiet_error _ _).bind fun _ _ => (quiet_call rfl).bind fun _ _ => trivial
    · trivial

theorem quiet_boyCloseVapi (ctx : Bool) : Quiet (fun _ => True) (boyCloseVapi ctx) := by
  unfold boyCloseVapi
  split
  · exact ⟨rfl, fun _ => ⟨rfl, fun _ => trivial⟩⟩
  · trivial

theorem opens : Succeeds (·.1 = 0) boyOpenVapi := by
  rintro err rfl err' rfl
  rfl

/-! ## Collecting -/

theorem quiet_reserve (capacity itemSize requiredCount : Nat) :
    Quiet (fun _ => True) (reserve capacity itemSize requiredCount) := by
  unfold reserve
  split
  · trivial
  · split
    · exact quiet_stuck
    · apply (quiet_call rfl).bind
      intro granted _
      split
      · trivial
      · trivial

theorem reserves (capacity itemSize requiredCount : Nat) :
    Succeeds (·.1 = 0) (reserve capacity itemSize requiredCount) := by
  unfold reserve
  split
  · rfl
  · split
    · exact fun r => nomatch r
    · rintro granted rfl
      rfl

section Collect
variable {Details Entry : Type} {itemSize : Nat} {entry : Details → Entry}

/-- The detail a callback brings, if it is not the last one. -/
def DumpCallback.detail (cb : DumpCallback Details) : Option Details :=
  if cb.isLast then none else cb.reply

theorem quiet_boyDumpCb (table : BoyTable Entry) (cb : DumpCallback Details) :
    Quiet (fun r => r.1 = .ok → cb.rv = .ok ∧
      r.2.entries = table.entries ++ (cb.detail.map entry).toList)
      (boyDumpCb itemSize entry table cb) := by
  unfold boyDumpCb
  split
  · rename_i bad
    exact fun h => absurd h bad
  · rename_i good
    rw [not_not] at good
    split
    · rename_i more reply
      apply (quiet_reserve _ _ _).bind
      intro reserved _
      split
      · exact fun h => nomatch h
      · exact fun _ => ⟨good, by simp [DumpCallback.detail, more, reply]⟩
    · rename_i closing
      refine fun _ => ⟨good, ?_⟩
      have nothing : cb.detail = none := by
        obtain ⟨rv, isLast, reply⟩ := cb
        cases isLast with
        | true => rfl
        | false =>
          cases reply with
          | none => rfl
          | some d => exact absurd rfl (closing d rfl)
      simp [nothing]

theorem dumpCb_succeeds (table : BoyTable Entry) {cb : DumpCallback Details} (good : cb.rv = .ok) :
    Succeeds (·.1 = .ok) (boyDumpCb itemSize entry table cb) := by
  unfold boyDumpCb
  rw [if_neg (by simp [good])]
  split
  · apply (reserves _ _ _).bind
    intro reserved granted
    simp [granted]
    rfl
  · rfl

theorem quiet_runDumpCallbacks (cbs : List (DumpCallback Details)) (table : BoyTable Entry) :
    Quiet (fun r => r.1 = .ok → (∀ cb ∈ cbs, cb.rv = .ok) ∧
        r.2.entries = table.entries ++ (cbs.filterMap (·.detail)).map entry)
      (runDumpCallbacks (boyDumpCb itemSize entry) cbs table) := by
  induction cbs generalizing table with
  | nil => exact fun _ => ⟨by simp, by simp⟩
  | cons cb cbs ih =>
    apply (quiet_boyDumpCb table cb).bind
    intro result hresult
    split
    · rename_i bad
      exact fun h => absurd h bad
    · rename_i good
      rw [not_not] at good
      obtain ⟨now, grown⟩ := hresult good
      apply (ih result.2).mono (fun _ h => h)
      intro r hr hok
      obtain ⟨later, entries⟩ := hr hok
      refine ⟨by simpa [now] using later, ?_⟩
      rw [entries, grown]
      cases hd : cb.detail with
      | none => simp [hd]
      | some d => simp [hd]

theorem runDumpCallbacks_succeeds {cbs : List (DumpCallback Details)}
    (good : ∀ cb ∈ cbs, cb.rv = .ok) (table : BoyTable Entry) :
    Succeeds (·.1 = .ok) (runDumpCallbacks (boyDumpCb itemSize entry) cbs table) := by
  induction cbs generalizing table with
  | nil => rfl
  | cons cb cbs ih =>
    apply (dumpCb_succeeds table (good cb List.mem_cons_self)).bind
    intro result hresult
    rw [if_neg (by simp [hresult])]
    exact ih (fun cb' h => good cb' (List.mem_cons_of_mem _ h)) _

theorem follows_boyCall {c : BoyCall} {tr : List BoyEvent} {r : BoyReply c}
    (h : Follows (boyCall c) tr r) : tr = [⟨c, r⟩] := by
  obtain ⟨r', t, rfl, rest⟩ := follows_call_iff.1 h
  obtain ⟨rfl, rfl⟩ := follows_done_iff.1 rest
  rfl

theorem begins_boyCall {c : BoyCall} {tr : List BoyEvent} (h : Begins (boyCall c) tr) :
    tr = [] ∨ ∃ r, tr = [⟨c, r⟩] := by
  rcases begins_call_iff.1 h with rfl | ⟨r, t, rfl, rest⟩
  · exact .inl rfl
  · cases rest with
    | start => exact .inr ⟨r, rfl⟩

/-- A call, then what its reply leads to. -/
theorem follows_call_bind {α : Type} {c : BoyCall} {f : BoyReply c → Boy α} {tr : List BoyEvent}
    {a : α} (h : Follows (boyCall c >>= f) tr a) :
    ∃ r t, tr = ⟨c, r⟩ :: t ∧ Follows (f r) t a := follows_call_iff.1 h

theorem begins_call_bind {α : Type} {c : BoyCall} {f : BoyReply c → Boy α} {tr : List BoyEvent}
    (h : Begins (boyCall c >>= f) tr) : tr = [] ∨ ∃ r t, tr = ⟨c, r⟩ :: t ∧ Begins (f r) t :=
  begins_call_iff.1 h

/-- A collector asks for nothing when it has no message, and for one dump
otherwise; it succeeds only on a complete dump, and then appends its details. -/
def Collects (sent : VapiDump Details → BoyEvent) (entry : Details → Entry) (table : BoyTable Entry)
    (m : Boy (Int × BoyTable Entry)) : Prop :=
  ∀ tr r, Follows m tr r → visible tr = [] ∧ r.1 = 1 ∨
    ∃ dump, visible tr = [sent dump] ∧
      (r.1 = 1 ∨ r.1 = 0 ∧ ¬ dump.Failed ∧ r.2.entries = table.entries ++ dump.details.map entry)

theorem collects_boyCollect {message : String} {send : Boy (VapiDump Details)}
    (sent : VapiDump Details → BoyEvent)
    (hsend : ∀ tr dump, Follows send tr dump → visible tr = [sent dump]) (table : BoyTable Entry) :
    Collects sent entry table (boyCollect message send (boyDumpCb itemSize entry) table) := by
  intro tr r h
  obtain ⟨allocated, t, rfl, rest⟩ := follows_call_bind h
  have unseen : visible (⟨.vapiAlloc message, allocated⟩ :: t) = visible t := rfl
  rw [unseen]
  split at rest
  · obtain ⟨t₁, dump, t₂, rfl, h₁, h₂⟩ := follows_bind_iff.1 rest
    have collected : visible t₂ = [] ∧ (r.1 = 1 ∨
        r.1 = 0 ∧ ¬ dump.Failed ∧ r.2.entries = table.entries ++ dump.details.map entry) := by
      apply visible_of_quiet h₂
      apply (quiet_runDumpCallbacks _ _).bind
      intro result hresult
      by_cases ok : result.1 = .ok
      · obtain ⟨all, entries⟩ := hresult ok
        by_cases err : dump.err = .ok
        · have complete : ¬ dump.Failed := by
            rintro (failed | ⟨cb, hcb, failed⟩)
            · exact failed err
            · exact failed (all cb hcb)
          simp only [ok, err, ne_eq, not_true_eq_false, ↓reduceIte]
          exact .inr ⟨rfl, complete, entries⟩
        · simp only [ok, err, ne_eq, not_true_eq_false, not_false_eq_true, ↓reduceIte]
          exact (quiet_error _ _).bind fun _ _ => .inl rfl
      · simp only [ok, ne_eq, not_false_eq_true, ↓reduceIte]
        exact (quiet_error _ _).bind fun _ _ => .inl rfl
    exact .inr ⟨dump, by simp [hsend _ _ h₁, collected.1], collected.2⟩
  · left
    apply visible_of_quiet (R := fun r => r.1 = 1) rest
    exact (quiet_error _ _).bind fun _ _ => rfl

theorem boyCollect_succeeds {message : String} {send : Boy (VapiDump Details)}
    (hsend : Succeeds (fun dump => ¬ dump.Failed) send) (table : BoyTable Entry) :
    Succeeds (·.1 = 0) (boyCollect message send (boyDumpCb itemSize entry) table) := by
  rintro allocated rfl
  apply hsend.bind
  intro dump complete
  have good : ∀ cb ∈ dump.callbacks, cb.rv = .ok :=
    fun cb hcb => not_not.1 fun bad => complete (.inr ⟨cb, hcb, bad⟩)
  have err : dump.err = .ok := not_not.1 fun bad => complete (.inl bad)
  apply (runDumpCallbacks_succeeds good table).bind
  intro result hresult
  simp only [hresult, err, ne_eq, not_true_eq_false, ↓reduceIte]
  rfl

end Collect

theorem collects_boyCollectInterfaces (table : BoyInterfaceTable) :
    Collects (⟨.swInterfaceDump, ·⟩) interfaceEntry table (boyCollectInterfaces table) := by
  apply collects_boyCollect
  intro tr dump asked
  rw [follows_boyCall asked]
  rfl

theorem collects_boyCollectSpan (isL2 : Bool) (table : BoySpanTable) :
    Collects (⟨.swInterfaceSpanDump isL2, ·⟩) spanEntry table (boyCollectSpan isL2 table) := by
  apply collects_boyCollect
  intro tr dump asked
  rw [follows_boyCall asked]
  rfl

theorem boyCollectInterfaces_succeeds (table : BoyInterfaceTable) :
    Succeeds (·.1 = 0) (boyCollectInterfaces table) := by
  apply boyCollect_succeeds
  intro dump complete
  exact complete

theorem boyCollectSpan_succeeds (isL2 : Bool) (table : BoySpanTable) :
    Succeeds (·.1 = 0) (boyCollectSpan isL2 table) := by
  apply boyCollect_succeeds
  intro dump complete
  exact complete

/-! ## Simple requests -/

section SimpleRequest
variable {message : String} {send : Boy VapiAnswer}
  {cb : VapiError → Option Int → Boy (VapiError × BoySimpleReplyResult)}
  {failed : VapiError → Boy Unit} {noReply : Boy Unit} {refused : Int → Boy Unit}

/-- A callback takes an acknowledgement for one, and nothing else. -/
def Faithful (cb : VapiError → Option Int → Boy (VapiError × BoySimpleReplyResult)) : Prop :=
  ∀ rv reply, Quiet (fun r => r.1 = .ok ∧ r.2 = some 0 ↔ rv = .ok ∧ reply = some 0) (cb rv reply)

theorem faithful_of (failed : ∀ rv reply, rv ≠ .ok → cb rv reply = pure (rv, none))
    (replied : ∀ reply, Quiet (· = (.ok, reply)) (cb .ok reply)) : Faithful cb := by
  intro rv reply
  by_cases ok : rv = .ok
  · subst ok
    apply (replied reply).mono (fun _ h => h)
    rintro r rfl
    exact Iff.rfl
  · rw [failed rv reply ok]
    exact ⟨fun h => absurd h.1 ok, fun h => absurd h.1 ok⟩

theorem quiet_runSimpleCb (hcb : Faithful cb) (answer : VapiAnswer) :
    Quiet (fun r => r.1 = .ok ∧ r.2 = some 0 ↔ answer.Acked) (runSimpleCb cb answer) := by
  cases answer with
  | silent err =>
    have missing : ¬ (err = .ok ∧ (none : Option Int) = some 0) := by simp
    exact ⟨fun h => absurd h missing, fun h => nomatch h⟩
  | replied rv reply =>
    apply (hcb rv reply).mono (fun _ h => h)
    intro r hr
    simpa [VapiAnswer.Acked] using hr

/-- What is behind the request is quiet, and goes by the acknowledgement. -/
theorem quiet_judged (hcb : Faithful cb) (hfailed : ∀ err, Quiet (fun _ => True) (failed err))
    (hnoReply : Quiet (fun _ => True) noReply)
    (hrefused : ∀ retval, Quiet (fun _ => True) (refused retval)) (answer : VapiAnswer) :
    Quiet (fun rc => answer.Acked ∧ rc = 0 ∨ ¬ answer.Acked ∧ rc = 1) (do
      let result ← runSimpleCb cb answer
      if result.1 ≠ .ok then
        failed result.1
        pure 1
      else
        match result.2 with
        | none => do
          noReply
          pure 1
        | some retval =>
          if retval ≠ 0 then do
            refused retval
            pure 1
          else
            pure 0 : Boy Int) := by
  apply (quiet_runSimpleCb hcb answer).bind
  intro result hresult
  split
  · rename_i bad
    exact (hfailed _).bind fun _ _ => .inr ⟨fun acked => bad (hresult.2 acked).1, rfl⟩
  · rename_i ok
    rw [not_not] at ok
    split
    · rename_i missing
      rw [missing] at hresult
      exact hnoReply.bind fun _ _ => .inr ⟨fun acked => (nomatch (hresult.2 acked).2), rfl⟩
    · rename_i retval received
      rw [received, Option.some.injEq] at hresult
      split
      · rename_i nonzero
        exact (hrefused _).bind fun _ _ => .inr ⟨fun acked => nonzero (hresult.2 acked).2, rfl⟩
      · rename_i zero
        rw [not_not] at zero
        exact .inl ⟨hresult.1 ⟨ok, zero⟩, rfl⟩

/-- A simple request is sent once there is a message for it, and succeeds exactly
when it is acknowledged. -/
theorem follows_boySimpleRequest (sent : VapiAnswer → BoyEvent)
    (hsend : ∀ tr answer, Follows send tr answer → visible tr = [sent answer]) (hcb : Faithful cb)
    (hfailed : ∀ err, Quiet (fun _ => True) (failed err)) (hnoReply : Quiet (fun _ => True) noReply)
    (hrefused : ∀ retval, Quiet (fun _ => True) (refused retval)) {tr : List BoyEvent} {rc : Int}
    (h : Follows (boySimpleRequest message send cb failed noReply refused) tr rc) :
    visible tr = [] ∧ rc = 1 ∨
      ∃ answer, visible tr = [sent answer] ∧ (answer.Acked ∧ rc = 0 ∨ ¬ answer.Acked ∧ rc = 1) := by
  obtain ⟨allocated, t, rfl, rest⟩ := follows_call_bind h
  have unseen : visible (⟨.vapiAlloc message, allocated⟩ :: t) = visible t := rfl
  rw [unseen]
  split at rest
  · obtain ⟨t₁, answer, t₂, rfl, h₁, h₂⟩ := follows_bind_iff.1 rest
    have judged := visible_of_quiet h₂ (quiet_judged hcb hfailed hnoReply hrefused answer)
    exact .inr ⟨answer, by simp [hsend _ _ h₁, judged.1], judged.2⟩
  · left
    apply visible_of_quiet (R := fun rc => rc = 1) rest
    exact (quiet_error _ _).bind fun _ _ => rfl

/-- At any moment a simple request was sent once or not at all. -/
theorem begins_boySimpleRequest (sent : VapiAnswer → BoyEvent)
    (hsend : ∀ tr, Begins send tr → visible tr = [] ∨ ∃ answer, visible tr = [sent answer])
    (hcb : Faithful cb) (hfailed : ∀ err, Quiet (fun _ => True) (failed err))
    (hnoReply : Quiet (fun _ => True) noReply)
    (hrefused : ∀ retval, Quiet (fun _ => True) (refused retval))
    {tr : List BoyEvent} (h : Begins (boySimpleRequest message send cb failed noReply refused) tr) :
    visible tr = [] ∨ ∃ answer, visible tr = [sent answer] := by
  rcases begins_call_bind h with rfl | ⟨allocated, t, rfl, rest⟩
  · exact .inl rfl
  have unseen : visible (⟨.vapiAlloc message, allocated⟩ :: t) = visible t := rfl
  rw [unseen]
  split at rest
  · rcases begins_bind rest with asking | ⟨t₁, answer, t₂, rfl, h₁, h₂⟩
    · exact hsend t asking
    · have quiet := begins_of_quiet h₂ (quiet_judged hcb hfailed hnoReply hrefused answer)
      simpa [quiet] using hsend t₁ h₁.begins
  · left
    apply begins_of_quiet (R := fun rc => rc = 1) rest
    exact (quiet_error _ _).bind fun _ _ => rfl

theorem boySimpleRequest_succeeds (hsend : Succeeds VapiAnswer.Acked send)
    (hcb : Succeeds (fun r => r.1 = .ok ∧ r.2 = some 0) (cb .ok (some 0))) :
    Succeeds (· = 0) (boySimpleRequest message send cb failed noReply refused) := by
  rintro allocated rfl
  apply hsend.bind
  rintro answer rfl
  apply hcb.bind
  rintro ⟨err, result⟩ ⟨rfl, rfl⟩
  rfl

end SimpleRequest

theorem faithful_boySwInterfaceSetFlagsCb : Faithful boySwInterfaceSetFlagsCb := by
  apply faithful_of
  · exact fun rv reply bad => if_pos bad
  · exact fun reply => rfl

theorem faithful_boySpanEnableDisableCb : Faithful boySpanEnableDisableCb := by
  apply faithful_of
  · exact fun rv reply bad => if_pos bad
  · intro reply
    cases reply with
    | none => exact quiet_stuck
    | some retval => rfl

theorem follows_boySetInterfaceAdminUp {swIfIndex : UInt32} {tr : List BoyEvent} {rc : Int}
    (h : Follows (boySetInterfaceAdminUp swIfIndex) tr rc) :
    visible tr = [] ∧ rc = 1 ∨
      ∃ answer, visible tr = [⟨.swInterfaceSetFlags swIfIndex ifStatusApiFlagAdminUp, answer⟩] ∧
        (answer.Acked ∧ rc = 0 ∨ ¬ answer.Acked ∧ rc = 1) := by
  apply follows_boySimpleRequest
    (fun answer => ⟨.swInterfaceSetFlags swIfIndex ifStatusApiFlagAdminUp, answer⟩) _
    faithful_boySwInterfaceSetFlagsCb _ _ _ h
  · intro tr answer asked
    rw [follows_boyCall asked]
    rfl
  · exact fun err => quiet_error _ _
  · exact quiet_error _ _
  · exact fun retval => quiet_error _ _

theorem follows_boySetSpanEntry {swIfIndexFrom swIfIndexTo : UInt32} {state : SpanState}
    {isL2 : Bool} {tr : List BoyEvent} {rc : Int}
    (h : Follows (boySetSpanEntry swIfIndexFrom swIfIndexTo state isL2) tr rc) :
    visible tr = [] ∧ rc = 1 ∨
      ∃ answer, visible tr =
          [⟨.swInterfaceSpanEnableDisable swIfIndexFrom swIfIndexTo state isL2, answer⟩] ∧
        (answer.Acked ∧ rc = 0 ∨ ¬ answer.Acked ∧ rc = 1) := by
  apply follows_boySimpleRequest
    (fun answer =>
      ⟨.swInterfaceSpanEnableDisable swIfIndexFrom swIfIndexTo state isL2, answer⟩) _
    faithful_boySpanEnableDisableCb _ _ _ h
  · intro tr answer asked
    rw [follows_boyCall asked]
    rfl
  · exact fun err => quiet_error _ _
  · exact quiet_error _ _
  · exact fun retval => quiet_error _ _

/-- The request writes its key exactly when it succeeds. -/
theorem spanWrites_boySetSpanEntry {swIfIndexFrom swIfIndexTo : UInt32} {state : SpanState}
    {isL2 : Bool} {tr : List BoyEvent} {rc : Int}
    (h : Follows (boySetSpanEntry swIfIndexFrom swIfIndexTo state isL2) tr rc) :
    rc = 0 ∧ spanWrites tr = [spanWrite swIfIndexFrom swIfIndexTo state isL2] ∨
      rc ≠ 0 ∧ spanWrites tr = [] := by
  rw [← spanWrites_visible]
  rcases follows_boySetSpanEntry h with ⟨nothing, rfl⟩ | ⟨answer, sent, verdict⟩
  · rw [nothing]
    exact .inr ⟨by decide, rfl⟩
  · rw [sent]
    rcases verdict with ⟨good, zero⟩ | ⟨bad, rfl⟩
    · exact .inl ⟨zero, List.filterMap_cons_some (if_pos good)⟩
    · exact .inr ⟨by decide, List.filterMap_cons_none (if_neg bad)⟩

theorem boySetInterfaceAdminUp_succeeds (swIfIndex : UInt32) :
    Succeeds (· = 0) (boySetInterfaceAdminUp swIfIndex) := by
  apply boySimpleRequest_succeeds
  · intro answer acked
    exact acked
  · exact ⟨rfl, rfl⟩

theorem boySetSpanEntry_succeeds (swIfIndexFrom swIfIndexTo : UInt32) (state : SpanState)
    (isL2 : Bool) :
    Succeeds (· = 0) (boySetSpanEntry swIfIndexFrom swIfIndexTo state isL2) := by
  apply boySimpleRequest_succeeds
  · intro answer acked
    exact acked
  · exact ⟨rfl, rfl⟩

/-! ## Attempts -/

@[simp] theorem spanWrites_log (level : AppLogLevel) (format : String) (args : List BoyLogArg)
    (u : Unit)
    (tr : List BoyEvent) : spanWrites (⟨.boyLog level format args, u⟩ :: tr) = spanWrites tr := rfl

theorem quiet_logThenCleanup {α : Type} (format : String) (args : List BoyLogArg) :
    Quiet (· = none) (logThenCleanup (α := α) format args).run :=
  (quiet_error format args).bind fun _ _ => rfl

/-- An attempt that starts with a program that cannot be given up. -/
theorem follows_lifted {α β : Type} {p : Boy β} {f : β → Attempt α} {tr : List BoyEvent}
    {o : Option α} (h : Follows (liftM p >>= f : Attempt α).run tr o) :
    ∃ t₁ b t₂, tr = t₁ ++ t₂ ∧ Follows p t₁ b ∧ Follows (f b).run t₂ o := by
  rcases follows_attempt_iff.1 h with ⟨first, _⟩ | ⟨t₁, b, t₂, rfl, first, rest⟩
  · obtain ⟨_, no, _⟩ := follows_lift_iff.1 first
    cases no
  · obtain ⟨_, same, first⟩ := follows_lift_iff.1 first
    cases same
    exact ⟨t₁, b, t₂, rfl, first, rest⟩

/-- An attempt that starts with a call. -/
theorem follows_lift_bind {α : Type} {p : Boy Unit} {f : Unit → Attempt α} {tr : List BoyEvent}
    {o : Option α} (h : Follows (liftM p >>= f : Attempt α).run tr o) :
    ∃ t₁ t₂, tr = t₁ ++ t₂ ∧ Follows p t₁ () ∧ Follows (f ()).run t₂ o := by
  obtain ⟨t₁, _, t₂, split, first, rest⟩ := follows_lifted h
  exact ⟨t₁, t₂, split, first, rest⟩

theorem follows_boyLog {level : AppLogLevel} {format : String} {args : List BoyLogArg}
    {tr : List BoyEvent} {u : Unit} (h : Follows (boyLog level format args) tr u) :
    tr = [⟨.boyLog level format args, ()⟩] := follows_boyCall h

theorem follows_orCleanup {α : Type} {m : Boy (Int × α)} {tr : List BoyEvent} {o : Option α}
    (h : Follows (orCleanup m).run tr o) :
    ∃ r, Follows m tr r ∧ (r.1 ≠ 0 ∧ o = none ∨ r.1 = 0 ∧ o = some r.2) := by
  obtain ⟨t₁, r, t₂, rfl, h₁, h₂⟩ := follows_bind_iff.1 h
  obtain ⟨rfl, rfl⟩ := follows_done_iff.1 h₂
  refine ⟨r, by simpa using h₁, ?_⟩
  by_cases zero : r.1 = 0
  · exact .inr ⟨zero, by simp [zero]⟩
  · exact .inl ⟨zero, by simp [zero]⟩

theorem follows_unlessZero {m : Boy Int} {tr : List BoyEvent} {o : Option Unit}
    (h : Follows (unlessZero m).run tr o) :
    ∃ rc, Follows m tr rc ∧ (rc ≠ 0 ∧ o = none ∨ rc = 0 ∧ o = some ()) := by
  obtain ⟨t₁, rc, t₂, rfl, h₁, h₂⟩ := follows_bind_iff.1 h
  obtain ⟨rfl, rfl⟩ := follows_done_iff.1 h₂
  refine ⟨rc, by simpa using h₁, ?_⟩
  by_cases zero : rc = 0
  · exact .inr ⟨zero, by simp [zero]⟩
  · exact .inl ⟨zero, by simp [zero]⟩

theorem orCleanup_succeeds {α : Type} {m : Boy (Int × α)} (hm : Succeeds (·.1 = 0) m) :
    Succeeds (·.isSome = true) (orCleanup m).run := by
  apply hm.bind
  intro r zero
  rw [if_neg (by simp [zero])]
  rfl

theorem unlessZero_succeeds {m : Boy Int} (hm : Succeeds (· = 0) m) :
    Succeeds (·.isSome = true) (unlessZero m).run := by
  apply hm.bind
  rintro rc rfl
  rfl

theorem attempt_succeeds {α β : Type} {m : Attempt α} {f : α → Attempt β}
    (hm : Succeeds (·.isSome = true) m.run) (hf : ∀ a, Succeeds (·.isSome = true) (f a).run) :
    Succeeds (·.isSome = true) (m >>= f).run :=
  Given.attempt hm (fun h => nomatch h) fun a _ => hf a

theorem lift_succeeds {α : Type} (p : Boy α) :
    Succeeds (·.isSome = true) (liftM p : Attempt α).run :=
  (given_true p).bind fun _ _ => rfl

/-- Around an attempt there is only what the context needs. -/
theorem follows_withVapi {operation : String} {body : Attempt Unit} {tr : List BoyEvent} {rc : Int}
    (h : Follows (withVapi operation body) tr rc) :
    (visible tr = [] ∧ rc = 1 ∧ ¬ ∀ e ∈ tr, Acknowledged e) ∨
      ∃ t finished, visible tr = visible t ∧ t ⊆ tr ∧ Follows body.run t finished ∧
        rc = if finished.isSome then 0 else 1 := by
  obtain ⟨_, t, rfl, rest⟩ := follows_call_bind h
  have unseen (r : Unit) : visible (⟨.boyLogStart operation, r⟩ :: t) = visible t := rfl
  rw [unseen]
  obtain ⟨t₁, opened, t₂, rfl, h₁, h₂⟩ := follows_bind_iff.1 rest
  obtain ⟨t₃, code, t₄, rfl, h₃, h₄⟩ := follows_bind_iff.1 h₂
  obtain ⟨t₅, _, t₆, rfl, h₅, h₆⟩ := follows_bind_iff.1 h₄
  obtain ⟨rfl, rfl⟩ := follows_done_iff.1 h₆
  have opening := (visible_of_quiet h₁ quiet_boyOpenVapi).1
  have closing := (visible_of_quiet h₅ (quiet_boyCloseVapi _)).1
  simp only [visible_append, opening, closing, List.nil_append, List.append_nil]
  unfold cleanupCode at h₃
  split at h₃
  · rename_i failed
    obtain ⟨rfl, rfl⟩ := follows_done_iff.1 h₃
    refine .inl ⟨rfl, rfl, fun all => failed ?_⟩
    exact h₁.of_given (fun e he => all e (by simp [he])) opens
  · obtain ⟨t₇, finished, t₈, rfl, h₇, h₈⟩ := follows_bind_iff.1 h₃
    obtain ⟨rfl, rfl⟩ := follows_done_iff.1 h₈
    refine .inr ⟨t₇, finished, by simp, ?_, h₇, rfl⟩
    intro e he
    simp [he]

theorem begins_withVapi {operation : String} {body : Attempt Unit} {tr : List BoyEvent}
    (h : Begins (withVapi operation body) tr) :
    visible tr = [] ∨ ∃ t, visible tr = visible t ∧ Begins body.run t := by
  rcases begins_call_bind h with rfl | ⟨r, t, rfl, rest⟩
  · exact .inl rfl
  have unseen : visible (⟨.boyLogStart operation, r⟩ :: t) = visible t := rfl
  rw [unseen]
  rcases begins_bind rest with opening | ⟨t₁, opened, t₂, rfl, h₁, h₂⟩
  · exact .inl (begins_of_quiet opening quiet_boyOpenVapi)
  rw [visible_append, (visible_of_quiet h₁ quiet_boyOpenVapi).1, List.nil_append]
  -- The body may still be running, or the context is being closed.
  have inside {t : List BoyEvent} (run : Begins (cleanupCode opened.1 body) t) :
      visible t = [] ∨ ∃ t', visible t = visible t' ∧ Begins body.run t' := by
    unfold cleanupCode at run
    split at run
    · cases run with
      | start => exact .inl rfl
    · rcases begins_bind run with body | ⟨t₃, finished, t₄, rfl, h₃, h₄⟩
      · exact .inr ⟨t, rfl, body⟩
      · cases h₄ with
        | start => exact .inr ⟨t₃, by simp, h₃.begins⟩
  rcases begins_bind h₂ with running | ⟨t₃, code, t₄, rfl, h₃, h₄⟩
  · exact inside running
  · have closing : visible t₄ = [] :=
      begins_of_quiet (R := fun _ => True) h₄ ((quiet_boyCloseVapi _).bind fun _ _ => trivial)
    rw [visible_append, closing, List.append_nil]
    exact inside h₃.begins

theorem withVapi_succeeds {operation : String} {body : Attempt Unit}
    (hbody : Succeeds (·.isSome = true) body.run) : Succeeds (· = 0) (withVapi operation body) := by
  intro _ _
  apply opens.bind
  intro opened zero
  have code : Succeeds (· = 0) (cleanupCode opened.1 body) := by
    unfold cleanupCode
    rw [if_neg (by simp [zero])]
    apply hbody.bind
    intro finished done
    rw [if_pos done]
    rfl
  apply code.bind
  rintro rc rfl
  exact (given_true _).bind fun _ _ => rfl

/-- Dumps are asked for, and nothing else. -/
def OnlyDumps (tr : List BoyEvent) : Prop :=
  ∀ e ∈ visible tr, e.call = .swInterfaceDump ∨ ∃ isL2, e.call = .swInterfaceSpanDump isL2

theorem OnlyDumps.append {t₁ t₂ : List BoyEvent} (h₁ : OnlyDumps t₁) (h₂ : OnlyDumps t₂) :
    OnlyDumps (t₁ ++ t₂) := by
  intro e he
  rw [visible_append] at he
  rcases List.mem_append.mp he with he | he
  · exact h₁ e he
  · exact h₂ e he

theorem onlyDumps_of_nil {tr : List BoyEvent} (h : visible tr = []) : OnlyDumps tr := by
  simp [OnlyDumps, h]

/-- What is read off the visible events, and not off dumps, is not there. -/
theorem OnlyDumps.filterMap_eq_nil {O : Type} {f : BoyEvent → Option O} {tr : List BoyEvent}
    (h : OnlyDumps tr) (unseen : ∀ e : BoyEvent, e.call.visible = false → f e = none)
    (interfaces : ∀ r, f ⟨.swInterfaceDump, r⟩ = none)
    (span : ∀ isL2 r, f ⟨.swInterfaceSpanDump isL2, r⟩ = none) : tr.filterMap f = [] := by
  rw [← filterMap_visible unseen]
  apply List.filterMap_eq_nil_iff.2
  rintro ⟨c, r⟩ he
  rcases h _ he with rfl | ⟨isL2, rfl⟩
  · exact interfaces r
  · exact span isL2 r

theorem OnlyDumps.spanRequests {tr : List BoyEvent} (h : OnlyDumps tr) : spanRequests tr = [] :=
  h.filterMap_eq_nil spanRequest_unseen (fun _ => rfl) fun _ _ => rfl

/-- A table that was collected, or the cleanup. -/
theorem Collects.got {Details Entry : Type} {sent : VapiDump Details → BoyEvent}
    {entry : Details → Entry} {table : BoyTable Entry} {m : Boy (Int × BoyTable Entry)}
    (collects : Collects sent entry table m)
    (dumps : ∀ dump, (sent dump).call = .swInterfaceDump ∨
      ∃ isL2, (sent dump).call = .swInterfaceSpanDump isL2)
    {tr : List BoyEvent} {o : Option (BoyTable Entry)} (h : Follows (orCleanup m).run tr o) :
    OnlyDumps tr ∧ ∀ got, o = some got →
      ∃ dump, visible tr = [sent dump] ∧ ¬ dump.Failed ∧
        got.entries = table.entries ++ dump.details.map entry := by
  obtain ⟨r, hr, ho⟩ := follows_orCleanup h
  rcases collects tr r hr with ⟨nothing, one⟩ | ⟨dump, asked, result⟩
  · refine ⟨onlyDumps_of_nil nothing, ?_⟩
    rintro got rfl
    simp [one] at ho
  · refine ⟨by simpa [OnlyDumps, asked] using dumps dump, ?_⟩
    rintro got rfl
    rcases ho with ⟨_, none⟩ | ⟨zero, some⟩
    · cases none
    · rcases result with one | ⟨_, complete, entries⟩
      · simp [one] at zero
      · rw [Option.some.inj some]
        exact ⟨dump, asked, complete, entries⟩

theorem follows_gotInterfaces {table : BoyInterfaceTable} {tr : List BoyEvent}
    {o : Option BoyInterfaceTable}
    (h : Follows (orCleanup (boyCollectInterfaces table)).run tr o) :
    OnlyDumps tr ∧ ∀ got, o = some got →
      ∃ dump, visible tr = [⟨.swInterfaceDump, dump⟩] ∧ ¬ dump.Failed ∧
        got.entries = table.entries ++ dump.details.map interfaceEntry :=
  (collects_boyCollectInterfaces table).got (fun _ => .inl rfl) h

theorem follows_gotSpan {isL2 : Bool} {table : BoySpanTable} {tr : List BoyEvent}
    {o : Option BoySpanTable}
    (h : Follows (orCleanup (boyCollectSpan isL2 table)).run tr o) :
    OnlyDumps tr ∧ ∀ got, o = some got →
      ∃ dump, visible tr = [⟨.swInterfaceSpanDump isL2, dump⟩] ∧ ¬ dump.Failed ∧
        got.entries = table.entries ++ dump.details.map spanEntry :=
  (collects_boyCollectSpan isL2 table).got (fun _ => .inr ⟨isL2, rfl⟩) h

/-- The three dumps the commands on the SPAN table start from. -/
theorem follows_collectAll {f : BoyInterfaceTable → BoySpanTable → Attempt Unit}
    {tr : List BoyEvent} {o : Option Unit}
    (h : Follows (do
      let interfaces ← orCleanup (boyCollectInterfaces .empty)
      let entries ← orCleanup (boyCollectSpan false .empty)
      let entries ← orCleanup (boyCollectSpan true entries)
      f interfaces entries : Attempt Unit).run tr o) :
    OnlyDumps tr ∧ o = none ∨
      ∃ ifs dev l2 interfaces entries t,
        visible tr = ⟨.swInterfaceDump, ifs⟩ :: ⟨.swInterfaceSpanDump false, dev⟩ ::
          ⟨.swInterfaceSpanDump true, l2⟩ :: visible t ∧
        (¬ ifs.Failed ∧ ¬ dev.Failed ∧ ¬ l2.Failed) ∧
        interfaces.entries = ifs.details.map interfaceEntry ∧
        entries.entries = (dev.details ++ l2.details).map spanEntry ∧
        Follows (f interfaces entries).run t o := by
  rcases follows_attempt_iff.1 h with ⟨h₁, rfl⟩ | ⟨t₁, interfaces, t₂, rfl, h₁, h₂⟩
  · exact .inl ⟨(follows_gotInterfaces h₁).1, rfl⟩
  obtain ⟨dumps₁, got⟩ := follows_gotInterfaces h₁
  obtain ⟨ifs, asked, complete, listed⟩ := got interfaces rfl
  rcases follows_attempt_iff.1 h₂ with ⟨h₃, rfl⟩ | ⟨t₃, first, t₄, rfl, h₃, h₄⟩
  · exact .inl ⟨dumps₁.append (follows_gotSpan h₃).1, rfl⟩
  obtain ⟨dumps₃, gotDev⟩ := follows_gotSpan h₃
  obtain ⟨dev, askedDev, completeDev, listedDev⟩ := gotDev first rfl
  rcases follows_attempt_iff.1 h₄ with ⟨h₅, rfl⟩ | ⟨t₅, entries, t₆, rfl, h₅, h₆⟩
  · exact .inl ⟨dumps₁.append (dumps₃.append (follows_gotSpan h₅).1), rfl⟩
  obtain ⟨_, gotL2⟩ := follows_gotSpan h₅
  obtain ⟨l2, askedL2, completeL2, listedL2⟩ := gotL2 entries rfl
  refine .inr ⟨ifs, dev, l2, interfaces, entries, t₆, ?_, ⟨complete, completeDev, completeL2⟩,
    ?_, ?_, h₆⟩
  · simp [asked, askedDev, askedL2]
  · simpa [BoyTable.empty] using listed
  · simp [listedL2, listedDev, BoyTable.empty]

end BeastieBoy
