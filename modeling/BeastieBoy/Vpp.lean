import BeastieBoy.Collectors
import BeastieBoy.Interact.Store

/-!
# VPP

What VPP does with the messages of `boy`. Its SPAN table holds a state for a
source, a destination and a layer. An acknowledged request sets the key's state,
or removes the key if the state is `DISABLED`; any other answer changes nothing.
A dump that does not fail lists every entry of its layer once.
-/

namespace BeastieBoy

open CLib Interact

structure SpanKey where
  swIfIndexFrom : UInt32
  swIfIndexTo : UInt32
  isL2 : Bool
  deriving DecidableEq

abbrev SpanTable := Store SpanKey SpanState

structure Vpp where
  interfaces : List SwInterfaceDetails
  span : SpanTable

/-! ## Dumps -/

namespace VapiDump
variable {Details : Type}

def Failed (dump : VapiDump Details) : Prop := dump.err ≠ .ok ∨ ∃ cb ∈ dump.callbacks, cb.rv ≠ .ok

/-- The details a dump brings. -/
def details (dump : VapiDump Details) : List Details :=
  dump.callbacks.filterMap fun cb => if cb.isLast then none else cb.reply

/-- One callback for each message, and the closing one. -/
def listing (ds : List Details) : VapiDump Details where
  callbacks := ds.map (fun d => ⟨.ok, false, some d⟩) ++ [⟨.ok, true, none⟩]
  err := .ok

@[simp] theorem details_listing (ds : List Details) : (listing ds).details = ds := by
  simp [listing, details, List.filterMap_map]

theorem listing_not_failed (ds : List Details) : ¬ (listing ds).Failed := by
  rintro (h | ⟨cb, hcb, h⟩)
  · exact h rfl
  · rcases List.mem_append.mp hcb with hcb | hcb
    · obtain ⟨d, _, rfl⟩ := List.mem_map.mp hcb
      exact h rfl
    · simp only [List.mem_singleton] at hcb
      subst hcb
      exact h rfl

end VapiDump

def SwInterfaceSpanDetails.key (d : SwInterfaceSpanDetails) : SpanKey :=
  ⟨d.swIfIndexFrom, d.swIfIndexTo, d.isL2⟩

/-- Each entry of a layer once, in some order. -/
structure Lists (t : SpanTable) (isL2 : Bool) (ds : List SwInterfaceSpanDetails) : Prop where
  nodup : (ds.map (·.key)).Nodup
  mem_iff : ∀ d, d ∈ ds ↔ d.isL2 = isL2 ∧ t.lookup d.key = some d.state

/-! ## Requests -/

def VapiAnswer.Acked (answer : VapiAnswer) : Prop := answer = .replied .ok (some 0)

instance (answer : VapiAnswer) : Decidable answer.Acked := inferInstanceAs (Decidable (_ = _))

/-- What a SPAN request asks for. -/
def spanWrite (swIfIndexFrom swIfIndexTo : UInt32) (state : SpanState) (isL2 : Bool) :
    Write SpanKey SpanState :=
  ⟨⟨swIfIndexFrom, swIfIndexTo, isL2⟩, if state = .disabled then none else some state⟩

def SwInterfaceDetails.orFlags (swIfIndex flags : UInt32) (d : SwInterfaceDetails) :
    SwInterfaceDetails :=
  if d.swIfIndex = swIfIndex then { d with flags := d.flags ||| flags } else d

/-- A reply that brings a `retval` of 0. -/
def VapiReturn.Acked {Payload : Type} (retval : Payload → Int) : VapiReturn Payload → Prop
  | .replied .ok (some reply) => retval reply = 0
  | _ => False

/-- This VPP creates no interfaces: it refuses a `memif_create`. -/
def vppServe : Server BoyCall BoyReply Vpp :=
  fun w c r w' =>
    match c, r with
    | .swInterfaceDump, dump => (dump.Failed ∨ dump = .listing w.interfaces) ∧ w' = w
    | .swInterfaceSpanDump isL2, dump =>
      (dump.Failed ∨ ∃ ds, Lists w.span isL2 ds ∧ dump = .listing ds) ∧ w' = w
    | .swInterfaceSetFlags swIfIndex flags, answer =>
      w' = if answer.Acked then
        { w with interfaces := w.interfaces.map (.orFlags swIfIndex flags) } else w
    | .swInterfaceSpanEnableDisable swIfIndexFrom swIfIndexTo state isL2, answer =>
      w' = if answer.Acked then
          { w with span := w.span.write (spanWrite swIfIndexFrom swIfIndexTo state isL2) } else w
    | .memifCreate _, answer => ¬ answer.Acked MemifCreateReply.retval ∧ w' = w
    | _, _ => w' = w

/-- What every event of a run without any failure is like. -/
def Acknowledged : BoyEvent → Prop
  | ⟨.vapiCtxAlloc, err⟩ => err = .ok
  | ⟨.vapiConnect _, err⟩ => err = .ok
  | ⟨.vapiAlloc _, granted⟩ => granted = true
  | ⟨.swInterfaceDump, dump⟩ => ¬ dump.Failed
  | ⟨.swInterfaceSpanDump _, dump⟩ => ¬ dump.Failed
  | ⟨.swInterfaceSetFlags .., answer⟩ => answer.Acked
  | ⟨.swInterfaceSpanEnableDisable .., answer⟩ => answer.Acked
  | ⟨.memifDump, dump⟩ => ¬ dump.Failed
  | ⟨.memifCreate _, answer⟩ => answer.Acked MemifCreateReply.retval
  | ⟨.cliInband _, answer⟩ => answer.Acked CliInbandReply.retval
  | ⟨.showVersion, answer⟩ => answer.Acked ShowVersionReply.retval
  | ⟨.malloc _, granted⟩ => granted = true
  | ⟨.calloc .., granted⟩ => granted = true
  | ⟨.realloc _, granted⟩ => granted = true
  | _ => True

instance {Details : Type} (dump : VapiDump Details) : Decidable dump.Failed :=
  inferInstanceAs (Decidable (_ ∨ _))

instance {Payload : Type} (retval : Payload → Int) : DecidablePred (VapiReturn.Acked retval)
  | .silent _ => .isFalse id
  | .replied _ none => .isFalse fun h => by simp [VapiReturn.Acked] at h
  | .replied rv (some reply) =>
    decidable_of_iff (rv = .ok ∧ retval reply = 0) (by cases rv <;> simp [VapiReturn.Acked])

instance : DecidablePred Acknowledged
  | ⟨.vapiCtxAlloc, err⟩ => inferInstanceAs (Decidable (err = .ok))
  | ⟨.vapiConnect _, err⟩ => inferInstanceAs (Decidable (err = .ok))
  | ⟨.vapiAlloc _, granted⟩ => inferInstanceAs (Decidable (granted = true))
  | ⟨.swInterfaceDump, dump⟩ => inferInstanceAs (Decidable (¬ dump.Failed))
  | ⟨.swInterfaceSpanDump _, dump⟩ => inferInstanceAs (Decidable (¬ dump.Failed))
  | ⟨.swInterfaceSetFlags .., answer⟩ => inferInstanceAs (Decidable answer.Acked)
  | ⟨.swInterfaceSpanEnableDisable .., answer⟩ => inferInstanceAs (Decidable answer.Acked)
  | ⟨.memifDump, dump⟩ => inferInstanceAs (Decidable (¬ dump.Failed))
  | ⟨.memifCreate _, answer⟩ => inferInstanceAs (Decidable (answer.Acked MemifCreateReply.retval))
  | ⟨.cliInband _, answer⟩ => inferInstanceAs (Decidable (answer.Acked CliInbandReply.retval))
  | ⟨.showVersion, answer⟩ => inferInstanceAs (Decidable (answer.Acked ShowVersionReply.retval))
  | ⟨.malloc _, granted⟩ => inferInstanceAs (Decidable (granted = true))
  | ⟨.calloc .., granted⟩ => inferInstanceAs (Decidable (granted = true))
  | ⟨.realloc _, granted⟩ => inferInstanceAs (Decidable (granted = true))
  | ⟨.vapiDisconnect, _⟩ => .isTrue trivial
  | ⟨.vapiCtxFree, _⟩ => .isTrue trivial
  | ⟨.stuck, _⟩ => .isTrue trivial
  | ⟨.boyLogStart _, _⟩ => .isTrue trivial
  | ⟨.boyLog .., _⟩ => .isTrue trivial
  | ⟨.appTableRender .., _⟩ => .isTrue trivial
  | ⟨.appPrintVersion _, _⟩ => .isTrue trivial

/-! ## Runs of VPP -/

/-- A SPAN request with its answer. -/
def spanRequest : BoyEvent → Option (Write SpanKey SpanState × VapiAnswer)
  | ⟨.swInterfaceSpanEnableDisable swIfIndexFrom swIfIndexTo state isL2, answer⟩ =>
    some (spanWrite swIfIndexFrom swIfIndexTo state isL2, answer)
  | _ => none

def spanRequests (tr : List BoyEvent) : List (Write SpanKey SpanState × VapiAnswer) :=
  tr.filterMap spanRequest

def ackedWrite (x : Write SpanKey SpanState × VapiAnswer) : Option (Write SpanKey SpanState) :=
  if x.2.Acked then some x.1 else none

/-- What the acknowledged requests wrote. -/
def spanWrites (tr : List BoyEvent) : List (Write SpanKey SpanState) :=
  (spanRequests tr).filterMap ackedWrite

@[simp] theorem spanRequests_nil : spanRequests [] = [] := rfl

@[simp] theorem spanWrites_nil : spanWrites [] = [] := rfl

@[simp] theorem spanRequests_append (t₁ t₂ : List BoyEvent) :
    spanRequests (t₁ ++ t₂) = spanRequests t₁ ++ spanRequests t₂ := List.filterMap_append

@[simp] theorem spanWrites_append (t₁ t₂ : List BoyEvent) :
    spanWrites (t₁ ++ t₂) = spanWrites t₁ ++ spanWrites t₂ := by
  simp [spanWrites]

theorem span_of_serve {w w' : Vpp} {e : BoyEvent} (h : vppServe w e.call e.reply w') :
    w'.span = w.span.writes (spanWrites [e]) := by
  obtain ⟨c, r⟩ := e
  cases c with
  | swInterfaceSpanEnableDisable swIfIndexFrom swIfIndexTo state isL2 =>
    simp only [vppServe] at h
    by_cases acked : r.Acked
    · simp [h, acked, spanWrites, spanRequests, spanRequest, ackedWrite]
    · simp [h, acked, spanWrites, spanRequests, spanRequest, ackedWrite]
  | swInterfaceSetFlags swIfIndex flags =>
    simp only [vppServe] at h
    rw [h]
    split
    · rfl
    · rfl
  | swInterfaceDump =>
    rw [h.2]
    rfl
  | swInterfaceSpanDump isL2 =>
    rw [h.2]
    rfl
  | memifCreate payload =>
    rw [h.2]
    rfl
  | _ =>
    simp only [vppServe] at h
    subst h
    rfl

/-- The table after a run is what its acknowledged requests made of it. -/
theorem span_of_serves {w w' : Vpp} {tr : List BoyEvent} (h : Serves vppServe w tr w') :
    w'.span = w.span.writes (spanWrites tr) := by
  induction h with
  | nil s => rfl
  | @cons s s' s'' e tr step rest ih =>
    have split : spanWrites (e :: tr) = spanWrites [e] ++ spanWrites tr := spanWrites_append [e] tr
    rw [ih, span_of_serve step, split, Store.writes_append]

/-- An interface without its flags: nothing else of it ever changes. -/
def SwInterfaceDetails.fixed (d : SwInterfaceDetails) : SwInterfaceDetails := { d with flags := 0 }

theorem fixed_orFlags (swIfIndex flags : UInt32) (d : SwInterfaceDetails) :
    (d.orFlags swIfIndex flags).fixed = d.fixed := by
  unfold SwInterfaceDetails.orFlags
  split
  · rfl
  · rfl

theorem fixed_of_serve {w w' : Vpp} {e : BoyEvent} (h : vppServe w e.call e.reply w') :
    w'.interfaces.map (·.fixed) = w.interfaces.map (·.fixed) := by
  obtain ⟨c, r⟩ := e
  cases c with
  | swInterfaceSetFlags swIfIndex flags =>
    simp only [vppServe] at h
    rw [h]
    split
    · simp [Function.comp_def, fixed_orFlags]
    · rfl
  | swInterfaceSpanEnableDisable swIfIndexFrom swIfIndexTo state isL2 =>
    simp only [vppServe] at h
    rw [h]
    split
    · rfl
    · rfl
  | swInterfaceDump => rw [h.2]
  | swInterfaceSpanDump isL2 => rw [h.2]
  | memifCreate payload => rw [h.2]
  | _ =>
    simp only [vppServe] at h
    rw [h]

theorem fixed_of_serves {w w' : Vpp} {tr : List BoyEvent} (h : Serves vppServe w tr w') :
    w'.interfaces.map (·.fixed) = w.interfaces.map (·.fixed) := by
  induction h with
  | nil s => rfl
  | cons step rest ih => rw [ih, fixed_of_serve step]

/-- A dump in a run lists the table as its earlier requests left it. -/
theorem lists_of_serves {w w' : Vpp} (t₁ : List BoyEvent) {t₂ : List BoyEvent} {isL2 : Bool}
    {dump : VapiDump SwInterfaceSpanDetails}
    (h : Serves vppServe w (t₁ ++ ⟨.swInterfaceSpanDump isL2, dump⟩ :: t₂) w')
    (complete : ¬ dump.Failed) : Lists (w.span.writes (spanWrites t₁)) isL2 dump.details := by
  obtain ⟨w₁, h₁, h₂⟩ := serves_append_iff.1 h
  obtain ⟨w₂, step, _⟩ := serves_cons_iff.1 h₂
  rcases step.1 with failed | ⟨ds, lists, rfl⟩
  · exact absurd failed complete
  · rw [← span_of_serves h₁]
    simpa using lists

theorem interfaces_of_serves {w w' : Vpp} (t₁ : List BoyEvent) {t₂ : List BoyEvent}
    {dump : VapiDump SwInterfaceDetails}
    (h : Serves vppServe w (t₁ ++ ⟨.swInterfaceDump, dump⟩ :: t₂) w') (complete : ¬ dump.Failed) :
    dump.details.map (·.fixed) = w.interfaces.map (·.fixed) := by
  obtain ⟨w₁, h₁, h₂⟩ := serves_append_iff.1 h
  obtain ⟨w₂, step, _⟩ := serves_cons_iff.1 h₂
  rcases step.1 with failed | rfl
  · exact absurd failed complete
  · rw [VapiDump.details_listing]
    exact fixed_of_serves h₁

end BeastieBoy
