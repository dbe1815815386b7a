import BeastieBoy.SpanSet
import BeastieBoy.AnsweringVpp

/-!
# The order of the requests

`boy_set_span` brings its source up, then its destination, then enables the
entry; each request waits for the acknowledgement of the one before it. This
holds at every moment of a run, also of one that never ends.
-/

namespace BeastieBoy

open CLib Interact Interact.Prog

/-- A request that changes VPP. -/
def BoyCall.mutates : BoyCall → Bool
  | .swInterfaceSetFlags .. => true
  | .swInterfaceSpanEnableDisable .. => true
  | .memifCreate _ => true
  | _ => false

def requests (tr : List BoyEvent) : List BoyEvent := tr.filter (·.call.mutates)

@[simp] theorem requests_nil : requests [] = [] := rfl

@[simp] theorem requests_append (t₁ t₂ : List BoyEvent) :
    requests (t₁ ++ t₂) = requests t₁ ++ requests t₂ := List.filter_append t₁ t₂

theorem visible_of_mutates {c : BoyCall} (h : c.mutates = true) : c.visible = true := by
  cases c with
  | swInterfaceSetFlags => rfl
  | swInterfaceSpanEnableDisable => rfl
  | memifCreate => rfl
  | _ => cases h

theorem requests_visible (tr : List BoyEvent) : requests (visible tr) = requests tr := by
  unfold requests visible
  rw [List.filter_filter]
  apply List.filter_congr
  intro e _
  cases h : e.call.mutates with
  | false => rfl
  | true => rw [visible_of_mutates h]; rfl

theorem requests_of_invisible {tr : List BoyEvent} (h : visible tr = []) : requests tr = [] := by
  rw [← requests_visible, h]
  rfl

/-! ## Following a plan -/

/-- These requests are the first of the plan, and each waited for the ones
before it. -/
structure Keeps (plan : List BoyCall) (evs : List BoyEvent) : Prop where
  order : evs.map (·.call) <+: plan
  acknowledged : ∀ e ∈ evs.dropLast, Acknowledged e

structure Completes (plan : List BoyCall) (evs : List BoyEvent) : Prop where
  order : evs.map (·.call) = plan
  acknowledged : ∀ e ∈ evs, Acknowledged e

theorem keeps_nil (plan : List BoyCall) : Keeps plan [] := ⟨List.nil_prefix, by simp⟩

theorem Completes.keeps {plan : List BoyCall} {evs : List BoyEvent} (h : Completes plan evs) :
    Keeps plan evs where
  order := h.order ▸ List.prefix_refl _
  acknowledged := fun e he => h.acknowledged e (List.mem_of_mem_dropLast he)

theorem Keeps.append_right {plan : List BoyCall} {evs : List BoyEvent} (h : Keeps plan evs)
    (rest : List BoyCall) : Keeps (plan ++ rest) evs where
  order := h.order.trans (List.prefix_append _ _)
  acknowledged := h.acknowledged

theorem Completes.then_keeps {plan rest : List BoyCall} {evs evs' : List BoyEvent}
    (h : Completes plan evs) (h' : Keeps rest evs') : Keeps (plan ++ rest) (evs ++ evs') where
  order := by
    rw [List.map_append, h.order]
    exact (List.prefix_append_right_inj plan).2 h'.order
  acknowledged := by
    intro e he
    by_cases none : evs' = []
    · rw [none, List.append_nil] at he
      exact h.acknowledged e (List.mem_of_mem_dropLast he)
    · rw [List.dropLast_append_of_ne_nil none] at he
      rcases List.mem_append.mp he with he | he
      · exact h.acknowledged e he
      · exact h'.acknowledged e he

theorem Completes.append {plan rest : List BoyCall} {evs evs' : List BoyEvent}
    (h : Completes plan evs) (h' : Completes rest evs') :
    Completes (plan ++ rest) (evs ++ evs') where
  order := by rw [List.map_append, h.order, h'.order]
  acknowledged := by
    intro e he
    rcases List.mem_append.mp he with he | he
    · exact h.acknowledged e he
    · exact h'.acknowledged e he

/-- A plan that was kept is complete once its last request is acknowledged. -/
theorem Keeps.completes_iff {plan : List BoyCall} {c : BoyCall} {evs : List BoyEvent}
    (h : Keeps (plan ++ [c]) evs) (fresh : c ∉ plan) :
    Completes (plan ++ [c]) evs ↔ ∃ e ∈ evs, e.call = c ∧ Acknowledged e := by
  constructor
  · intro all
    have last : c ∈ evs.map (·.call) := by simp [all.order]
    obtain ⟨e, he, rfl⟩ := List.mem_map.mp last
    exact ⟨e, he, rfl, all.acknowledged e he⟩
  · rintro ⟨e, he, called, acked⟩
    have sent : c ∈ evs.map (·.call) := List.mem_map.mpr ⟨e, he, called⟩
    rcases List.prefix_concat_iff.1 h.order with whole | part
    · refine ⟨whole, ?_⟩
      rcases List.eq_nil_or_concat evs with rfl | ⟨init, final, rfl⟩
      · simp
      rw [List.concat_eq_append] at he whole ⊢
      have before := h.acknowledged
      rw [List.concat_eq_append, List.dropLast_concat] at before
      rw [List.map_append] at whole
      obtain ⟨first, _⟩ := List.append_inj' whole rfl
      intro e' he'
      rcases List.mem_append.mp he' with earlier | final'
      · exact before e' earlier
      · rcases List.mem_append.mp he with early | final
        · exact absurd (first ▸ List.mem_map.mpr ⟨e, early, called⟩) fresh
        · rw [List.mem_singleton.1 final', ← List.mem_singleton.1 final]
          exact acked
    · exact absurd (part.subset sent) fresh

/-- An attempt that sends the requests of the plan, one after the other, and is
given up only where it cannot go on. -/
structure Obeys {α : Type} (plan : List BoyCall) (m : Attempt α) : Prop where
  begun : ∀ tr, Begins m.run tr → Keeps plan (requests tr)
  done : ∀ tr a, Follows m.run tr (some a) → Completes plan (requests tr)
  given_up : ∀ tr, Follows m.run tr none → ¬ Completes plan (requests tr)

theorem Obeys.bind {α β : Type} {plan rest : List BoyCall} {m : Attempt α} {f : α → Attempt β}
    (h : Obeys plan m) (h' : ∀ a, Obeys rest (f a)) : Obeys (plan ++ rest) (m >>= f) where
  begun := by
    intro tr run
    rcases begins_attempt run with first | ⟨t₁, a, t₂, rfl, first, second⟩
    · exact (h.begun tr first).append_right rest
    · rw [requests_append]
      exact (h.done t₁ a first).then_keeps ((h' a).begun t₂ second)
  done := by
    intro tr b run
    rcases follows_attempt_iff.1 run with ⟨_, no⟩ | ⟨t₁, a, t₂, rfl, first, second⟩
    · cases no
    · rw [requests_append]
      exact (h.done t₁ a first).append ((h' a).done t₂ b second)
  given_up := by
    intro tr run all
    rcases follows_attempt_iff.1 run with ⟨first, _⟩ | ⟨t₁, a, t₂, rfl, first, second⟩
    · have whole : (requests tr).map (·.call) = plan := by
        apply (h.begun tr first.begins).order.eq_of_length_le
        rw [all.order]
        simp
      exact h.given_up tr first ⟨whole, all.acknowledged⟩
    · rw [requests_append] at all
      have before := (h.done t₁ a first).order
      refine (h' a).given_up t₂ second ⟨?_, fun e he => all.acknowledged e (by simp [he])⟩
      have order := all.order
      rw [List.map_append, before] at order
      exact List.append_cancel_left order

/-- What sends nothing and cannot fail has an empty plan. -/
theorem obeys_log (level : AppLogLevel) (format : String) (args : List BoyLogArg) :
    Obeys [] (liftM (boyLog level format args) : Attempt Unit) where
  begun := by
    intro tr run
    have quiet : Only (fun c => c.mutates = false) (fun _ => True)
        (liftM (boyLog level format args) : Attempt Unit).run := ⟨rfl, fun _ => trivial⟩
    have none : requests tr = [] :=
      List.filter_eq_nil_iff.2 fun e he => by simp [run.of_only quiet e he]
    exact none ▸ keeps_nil _
  done := by
    intro tr a run
    obtain ⟨_, _, logged⟩ := follows_lift_iff.1 run
    rw [follows_boyLog logged]
    exact ⟨rfl, by simp [requests, BoyCall.mutates]⟩
  given_up := by
    intro tr run
    obtain ⟨_, no, _⟩ := follows_lift_iff.1 run
    cases no

/-- One request, and the cleanup unless it is acknowledged. -/
theorem obeys_unlessZero {m : Boy Int} {c : BoyCall} (sent : VapiAnswer → BoyEvent)
    (called : ∀ answer, (sent answer).call = c) (mutates : c.mutates = true)
    (acked : ∀ answer, Acknowledged (sent answer) ↔ answer.Acked)
    (begun : ∀ tr, Begins m tr → visible tr = [] ∨ ∃ answer, visible tr = [sent answer])
    (judged : ∀ tr rc, Follows m tr rc → visible tr = [] ∧ rc = 1 ∨
      ∃ answer, visible tr = [sent answer] ∧ (answer.Acked ∧ rc = 0 ∨ ¬ answer.Acked ∧ rc = 1)) :
    Obeys [c] (unlessZero m) := by
  have one {tr : List BoyEvent} {answer : VapiAnswer} (seen : visible tr = [sent answer]) :
      requests tr = [sent answer] := by
    rw [← requests_visible, seen]
    exact List.filter_cons_of_pos (by rw [called, mutates])
  constructor
  · intro tr run
    have asking : Begins m tr := by
      rcases begins_bind run with first | ⟨t₁, rc, t₂, rfl, first, second⟩
      · exact first
      · cases second with
        | start =>
          rw [List.append_nil]
          exact first.begins
    rcases begun tr asking with nothing | ⟨answer, seen⟩
    · rw [requests_of_invisible nothing]
      exact keeps_nil _
    · rw [one seen]
      exact ⟨by simp [called], by simp⟩
  · intro tr a run
    obtain ⟨rc, asked, verdict⟩ := follows_unlessZero run
    rcases judged tr rc asked with ⟨_, rfl⟩ | ⟨answer, seen, ⟨good, _⟩ | ⟨_, rfl⟩⟩
    · simp at verdict
    · rw [one seen]
      exact ⟨by simp [called], by simpa [acked] using good⟩
    · simp at verdict
  · intro tr run all
    obtain ⟨rc, asked, verdict⟩ := follows_unlessZero run
    rcases judged tr rc asked with ⟨nothing, _⟩ | ⟨answer, seen, ⟨_, rfl⟩ | ⟨bad, _⟩⟩
    · have none := all.order
      rw [requests_of_invisible nothing] at none
      cases none
    · simp at verdict
    · have good := all.acknowledged (sent answer) (by simp [one seen])
      exact bad ((acked answer).1 good)

/-! ## The plan of `boy_set_span` -/

/-- Up, if the dump shows it down. -/
def adminUpPlan (entry : BoyInterfaceEntry) : List BoyCall :=
  if entry.flags &&& ifStatusApiFlagAdminUp = 0 then
    [.swInterfaceSetFlags entry.swIfIndex ifStatusApiFlagAdminUp]
  else []

/-- Nothing for operands that do not pass the tests. -/
def setSpanPlan (interfaces : List BoyInterfaceEntry) (sourceIfIndex : UInt32)
    (destinationMemifName : CString) (deviceMode : BoySpanDeviceMode) : List BoyCall :=
  match boyFindInterfaceEntryByIndex interfaces sourceIfIndex,
    boyFindInterfaceEntryByName interfaces destinationMemifName with
  | some source, some destination =>
    if namesMemif destination.interfaceName ∧ source.swIfIndex ≠ destination.swIfIndex then
      adminUpPlan source ++ adminUpPlan destination ++
        [.swInterfaceSpanEnableDisable source.swIfIndex destination.swIfIndex
          (boySpanStateFromDeviceMode deviceMode) false]
    else []
  | _, _ => []

theorem obeys_bringUp (role : String) (entry : BoyInterfaceEntry) :
    Obeys (adminUpPlan entry) (bringUp role entry) := by
  unfold adminUpPlan bringUp
  split
  · refine (obeys_log _ _ _).bind fun _ => ?_
    apply obeys_unlessZero
      (fun answer => ⟨.swInterfaceSetFlags entry.swIfIndex ifStatusApiFlagAdminUp, answer⟩)
    · exact fun _ => rfl
    · rfl
    · exact fun _ => Iff.rfl
    · intro tr run
      refine begins_boySimpleRequest _ (fun t asking => ?_) faithful_boySwInterfaceSetFlagsCb
        (fun _ => quiet_error _ _) (quiet_error _ _) (fun _ => quiet_error _ _) run
      rcases begins_boyCall asking with rfl | ⟨answer, rfl⟩
      · exact .inl rfl
      · exact .inr ⟨answer, rfl⟩
    · exact fun tr rc run => follows_boySetInterfaceAdminUp run
  · constructor
    · intro tr run
      cases run with
      | start => exact keeps_nil _
    · intro tr a run
      obtain ⟨rfl, _⟩ := follows_done_iff.1 run
      exact ⟨rfl, by simp⟩
    · intro tr run
      obtain ⟨_, no⟩ := follows_done_iff.1 run
      cases no

theorem obeys_boySetSpanEntry (swIfIndexFrom swIfIndexTo : UInt32) (state : SpanState)
    (isL2 : Bool) :
    Obeys [.swInterfaceSpanEnableDisable swIfIndexFrom swIfIndexTo state isL2]
      (unlessZero (boySetSpanEntry swIfIndexFrom swIfIndexTo state isL2)) := by
  apply obeys_unlessZero
    (fun answer => ⟨.swInterfaceSpanEnableDisable swIfIndexFrom swIfIndexTo state isL2, answer⟩)
  · exact fun _ => rfl
  · rfl
  · exact fun _ => Iff.rfl
  · intro tr run
    refine begins_boySimpleRequest _ (fun t asking => ?_) faithful_boySpanEnableDisableCb
      (fun _ => quiet_error _ _) (quiet_error _ _) (fun _ => quiet_error _ _) run
    rcases begins_boyCall asking with rfl | ⟨answer, rfl⟩
    · exact .inl rfl
    · exact .inr ⟨answer, rfl⟩
  · exact fun tr rc run => follows_boySetSpanEntry run

theorem obeys_configureSpan (source destination : BoyInterfaceEntry)
    (deviceMode : BoySpanDeviceMode) :
    Obeys (adminUpPlan source ++ adminUpPlan destination ++
        [.swInterfaceSpanEnableDisable source.swIfIndex destination.swIfIndex
          (boySpanStateFromDeviceMode deviceMode) false])
      (configureSpan source destination deviceMode) := by
  have inOrder : Obeys (adminUpPlan source ++ (adminUpPlan destination ++
      ([] ++ ([.swInterfaceSpanEnableDisable source.swIfIndex destination.swIfIndex
        (boySpanStateFromDeviceMode deviceMode) false] ++ []))))
      (configureSpan source destination deviceMode) := by
    refine (obeys_bringUp _ _).bind fun _ => ?_
    refine (obeys_bringUp _ _).bind fun _ => ?_
    refine (obeys_log _ _ _).bind fun _ => ?_
    refine (obeys_boySetSpanEntry _ _ _ _).bind fun _ => ?_
    exact obeys_log _ _ _
  simpa using inOrder

/-! ## The command -/

def dumpedBy : BoyEvent → Option (List BoyInterfaceEntry)
  | ⟨.swInterfaceDump, dump⟩ => some (dump.details.map interfaceEntry)
  | _ => none

/-- The interfaces of the first dump, or none before it. -/
def dumpedInterfaces (tr : List BoyEvent) : List BoyInterfaceEntry :=
  (tr.filterMap dumpedBy).head?.getD []

theorem dumpedInterfaces_visible (tr : List BoyEvent) :
    dumpedInterfaces (visible tr) = dumpedInterfaces tr := by
  unfold dumpedInterfaces
  rw [filterMap_visible]
  rintro ⟨c, r⟩ hidden
  cases c with
  | swInterfaceDump => cases hidden
  | _ => rfl

theorem dumpedInterfaces_append {t₁ : List BoyEvent} {dump : VapiDump SwInterfaceDetails}
    (asked : visible t₁ = [⟨.swInterfaceDump, dump⟩]) (t₂ : List BoyEvent) :
    dumpedInterfaces (t₁ ++ t₂) = dump.details.map interfaceEntry := by
  rw [← dumpedInterfaces_visible, visible_append, asked]
  rfl

/-- The SPAN request was sent and acknowledged. -/
def Configured (deviceMode : BoySpanDeviceMode) (tr : List BoyEvent) : Prop :=
  ∃ swIfIndexFrom swIfIndexTo answer,
    ⟨.swInterfaceSpanEnableDisable swIfIndexFrom swIfIndexTo
      (boySpanStateFromDeviceMode deviceMode) false, answer⟩ ∈ tr ∧ answer.Acked

theorem configured_visible (deviceMode : BoySpanDeviceMode) (tr : List BoyEvent) :
    Configured deviceMode (visible tr) ↔ Configured deviceMode tr := by
  constructor
  · rintro ⟨f, t, answer, there, acked⟩
    exact ⟨f, t, answer, mem_of_mem_visible there, acked⟩
  · rintro ⟨f, t, answer, there, acked⟩
    exact ⟨f, t, answer, List.mem_filter.mpr ⟨there, rfl⟩, acked⟩

theorem not_configured {deviceMode : BoySpanDeviceMode} {tr : List BoyEvent}
    (h : requests tr = []) :
    ¬ Configured deviceMode tr := by
  rintro ⟨f, t, answer, there, _⟩
  exact List.filter_eq_nil_iff.1 h _ there rfl

/-- The tests of the operands and the plan's tests agree: a refused operand is
logged, and leads nowhere. -/
theorem checkedSpan_cases (entries : List BoyInterfaceEntry) (sourceIfIndex : UInt32)
    (destinationMemifName : CString) (deviceMode : BoySpanDeviceMode) :
    (∃ format args, checkedSpan entries sourceIfIndex destinationMemifName deviceMode =
          logThenCleanup format args ∧
        setSpanPlan entries sourceIfIndex destinationMemifName deviceMode = []) ∨
      ∃ source destination, checkedSpan entries sourceIfIndex destinationMemifName deviceMode =
          configureSpan source destination deviceMode ∧
        setSpanPlan entries sourceIfIndex destinationMemifName deviceMode =
          adminUpPlan source ++ adminUpPlan destination ++
            [.swInterfaceSpanEnableDisable source.swIfIndex destination.swIfIndex
              (boySpanStateFromDeviceMode deviceMode) false] := by
  unfold checkedSpan setSpanPlan
  cases boyFindInterfaceEntryByIndex entries sourceIfIndex with
  | none => exact .inl ⟨_, _, rfl, rfl⟩
  | some source =>
    cases boyFindInterfaceEntryByName entries destinationMemifName with
    | none => exact .inl ⟨_, _, rfl, rfl⟩
    | some destination =>
      simp only
      by_cases memif : namesMemif destination.interfaceName = true
      · by_cases same : source.swIfIndex = destination.swIfIndex
        · rw [if_neg (not_not.2 memif), if_pos same, if_neg fun both => both.2 same]
          exact .inl ⟨_, _, rfl, rfl⟩
        · rw [if_neg (not_not.2 memif), if_neg same, if_pos ⟨memif, same⟩]
          exact .inr ⟨source, destination, rfl, rfl⟩
      · rw [if_pos memif, if_neg fun both => memif both.1]
        exact .inl ⟨_, _, rfl, rfl⟩

section Checked
variable {entries : List BoyInterfaceEntry} {sourceIfIndex : UInt32}
    {destinationMemifName : CString}
  {deviceMode : BoySpanDeviceMode} {tr : List BoyEvent}

theorem begins_checkedSpan
    (h : Begins (checkedSpan entries sourceIfIndex destinationMemifName deviceMode).run tr) :
    Keeps (setSpanPlan entries sourceIfIndex destinationMemifName deviceMode) (requests tr) := by
  rcases checkedSpan_cases entries sourceIfIndex destinationMemifName deviceMode with
    ⟨format, args, eq, _⟩ | ⟨source, destination, eq, plan⟩
  · rw [eq] at h
    rw [requests_of_invisible (begins_of_quiet h (quiet_logThenCleanup format args))]
    exact keeps_nil _
  · rw [eq] at h
    rw [plan]
    exact (obeys_configureSpan source destination deviceMode).begun tr h

theorem adminUpPlan_call {entry : BoyInterfaceEntry} {c : BoyCall} (h : c ∈ adminUpPlan entry) :
    c = .swInterfaceSetFlags entry.swIfIndex ifStatusApiFlagAdminUp := by
  unfold adminUpPlan at h
  split at h
  · simpa using h
  · simp at h

/-- On a kept plan, a SPAN request that is acknowledged is the plan's last. -/
theorem completes_iff_configured {source destination : BoyInterfaceEntry}
    (h : Keeps (adminUpPlan source ++ adminUpPlan destination ++
      [.swInterfaceSpanEnableDisable source.swIfIndex destination.swIfIndex
        (boySpanStateFromDeviceMode deviceMode) false]) (requests tr)) :
    Completes (adminUpPlan source ++ adminUpPlan destination ++
        [.swInterfaceSpanEnableDisable source.swIfIndex destination.swIfIndex
          (boySpanStateFromDeviceMode deviceMode) false]) (requests tr) ↔
            Configured deviceMode tr := by
  have others {c : BoyCall} (hc : c ∈ adminUpPlan source ++ adminUpPlan destination) :
      ∃ swIfIndex, c = .swInterfaceSetFlags swIfIndex ifStatusApiFlagAdminUp := by
    rcases List.mem_append.mp hc with hc | hc
    · exact ⟨_, adminUpPlan_call hc⟩
    · exact ⟨_, adminUpPlan_call hc⟩
  rw [h.completes_iff fun same => by obtain ⟨_, no⟩ := others same; cases no]
  constructor
  · rintro ⟨⟨c, answer⟩, he, rfl, acked⟩
    exact ⟨_, _, answer, List.mem_of_mem_filter he, acked⟩
  · rintro ⟨swIfIndexFrom, swIfIndexTo, answer, there, acked⟩
    refine ⟨_, List.mem_filter.mpr ⟨there, rfl⟩, ?_, acked⟩
    have planned := h.order.subset (List.mem_map_of_mem (List.mem_filter.mpr ⟨there, rfl⟩))
    rcases List.mem_append.mp planned with other | last
    · obtain ⟨_, no⟩ := others other
      cases no
    · exact List.mem_singleton.1 last

theorem configured_of_checkedSpan {o : Option Unit}
    (h : Follows (checkedSpan entries sourceIfIndex destinationMemifName deviceMode).run tr o) :
    o.isSome ↔ Configured deviceMode tr := by
  rcases checkedSpan_cases entries sourceIfIndex destinationMemifName deviceMode with
    ⟨format, args, eq, _⟩ | ⟨source, destination, eq, _⟩
  · rw [eq] at h
    obtain ⟨nothing, rfl⟩ := visible_of_quiet h (quiet_logThenCleanup format args)
    simpa using not_configured (requests_of_invisible nothing)
  · rw [eq] at h
    have obeys := obeys_configureSpan source destination deviceMode
    rw [← completes_iff_configured (obeys.begun tr h.begins)]
    cases o with
    | none => simpa using obeys.given_up tr h
    | some a => simpa using obeys.done tr a h

end Checked

/-- Up to the end of its dump the command requests nothing. -/
theorem begins_boyCollectInterfaces {table : BoyInterfaceTable} {tr : List BoyEvent}
    (h : Begins (boyCollectInterfaces table) tr) : requests tr = [] := by
  have quiet {α : Type} {p : Boy α} (hp : Quiet (fun _ => True) p) :
      Only (fun c => c.mutates = false) (fun _ => True) p := by
    apply hp.mono _ fun _ h => h
    intro c unseen
    cases mutates : c.mutates with
    | false => rfl
    | true => simp [visible_of_mutates mutates] at unseen
  have none : Only (fun c => c.mutates = false) (fun _ => True) (boyCollectInterfaces table) := by
    refine ⟨rfl, fun allocated => ?_⟩
    show Only _ _ (if allocated = true then _ else _)
    split
    · refine ⟨rfl, fun dump => ?_⟩
      apply (quiet ((quiet_runDumpCallbacks dump.callbacks table).mono (fun _ h => h)
        fun _ _ => trivial)).bind
      intro result _
      show Only _ _ (if (if result.1 ≠ .ok then result.1 else dump.err) ≠ .ok then _ else _)
      generalize (if result.1 ≠ .ok then result.1 else dump.err) = err
      split
      · exact (quiet (quiet_error _ _)).bind fun _ _ => trivial
      · trivial
    · exact (quiet (quiet_error _ _)).bind fun _ _ => trivial
  exact List.filter_eq_nil_iff.2 fun e he => by simp [h.of_only none e he]

/-- **The requests of `boy_set_span` keep their order.** At every moment of a run
they are the first of the plan its dump makes, each sent behind the
acknowledgement of all before it; a plan without valid operands is empty. A run
that ends returns 0 exactly if the SPAN request was acknowledged. -/
theorem set_span_requests {sourceIfIndex : UInt32} {destinationMemifName : CString}
    {deviceMode : BoySpanDeviceMode} {tr : List BoyEvent}
    (run : Begins (boySetSpan sourceIfIndex destinationMemifName deviceMode) tr) :
    Keeps (setSpanPlan (dumpedInterfaces tr) sourceIfIndex destinationMemifName deviceMode)
      (requests tr) ∧
      ∀ rc, Follows (boySetSpan sourceIfIndex destinationMemifName deviceMode) tr rc →
        (rc = 0 ↔ Configured deviceMode tr) := by
  constructor
  · rcases begins_withVapi run with nothing | ⟨t, seen, body⟩
    · rw [requests_of_invisible nothing]
      exact keeps_nil _
    rw [← dumpedInterfaces_visible, ← requests_visible, seen, requests_visible,
      dumpedInterfaces_visible]
    rcases begins_attempt body with collecting | ⟨t₁, interfaces, t₂, rfl, got, checking⟩
    · have asking : Begins (boyCollectInterfaces .empty) t := by
        rcases begins_bind collecting with first | ⟨t₁, r, t₂, rfl, first, second⟩
        · exact first
        · cases second with
          | start =>
            rw [List.append_nil]
            exact first.begins
      rw [begins_boyCollectInterfaces asking]
      exact keeps_nil _
    · obtain ⟨_, listing⟩ := follows_gotInterfaces got
      obtain ⟨dump, asked, _, listed⟩ := listing interfaces rfl
      have entries : interfaces.entries = dump.details.map interfaceEntry := by
        simpa [BoyTable.empty] using listed
      have none : requests t₁ = [] := by
        rw [← requests_visible, asked]
        rfl
      rw [dumpedInterfaces_append asked, requests_append, none, List.nil_append, ← entries]
      exact begins_checkedSpan checking
  · intro rc ended
    rcases follows_withVapi ended with ⟨nothing, rfl, _⟩ | ⟨t, finished, seen, _, body, rfl⟩
    · simpa using not_configured (requests_of_invisible nothing)
    rw [← configured_visible, seen, configured_visible]
    rcases follows_attempt_iff.1 body with ⟨got, rfl⟩ | ⟨t₁, interfaces, t₂, rfl, got, checking⟩
    · have none : requests t = [] := by
        obtain ⟨r, asking, _⟩ := follows_orCleanup got
        exact begins_boyCollectInterfaces asking.begins
      simpa using not_configured none
    · have none : requests t₁ = [] := by
        obtain ⟨r, asking, _⟩ := follows_orCleanup got
        exact begins_boyCollectInterfaces asking.begins
      have later : Configured deviceMode (t₁ ++ t₂) ↔ Configured deviceMode t₂ := by
        constructor
        · rintro ⟨f, d, answer, there, acked⟩
          rcases List.mem_append.mp there with early | late
          · exact absurd ⟨f, d, answer, early, acked⟩ (not_configured none)
          · exact ⟨f, d, answer, late, acked⟩
        · rintro ⟨f, d, answer, there, acked⟩
          exact ⟨f, d, answer, List.mem_append_right _ there, acked⟩
      rw [later, ← configured_of_checkedSpan checking]
      cases finished with
      | none => simp
      | some u => simp

/-- A hardware interface and a memif, both down. -/
def downVpp : AnsweringVpp where
  interfaces := [{ sampleInterface 1 .hardware "eth0" with flags := 0 },
    { sampleInterface 5 .hardware "memif0/0" with flags := 0 }]
  span := ∅
  refusals := []

def downSet : List BoyEvent × AnsweringVpp × Int :=
  (downVpp.run (boySetSpan 1 "memif0/0".toList .both)).get (by decide)

theorem down_interfaces_brought_up : Configured .both downSet.1 ∧
    (requests downSet.1).map (·.call) =
    [.swInterfaceSetFlags 1 1, .swInterfaceSetFlags 5 1,
      .swInterfaceSpanEnableDisable 1 5 .rxTx false] := by
  have run : Exec vppServe (boySetSpan 1 "memif0/0".toList .both) downVpp.shown downSet.1
      downSet.2.1.shown 0 := AnsweringVpp.exec_run_eq _ rfl
  exact ⟨((set_span_requests run.follows.begins).2 0 run.follows).1 rfl, rfl⟩

end BeastieBoy
