import BeastieBoy.Vpp
import BeastieBoy.Interact.Pool
import Mathlib.Data.List.AList

/-!
# A VPP that answers

A VPP that computes its replies, so that runs of the commands against it are
computed too. It keeps its SPAN entries in a list, dumps them in the order of
the list, and acknowledges each SPAN request unless told to refuse it. What is
not about SPAN it does not support.
-/

namespace BeastieBoy

open CLib Interact

structure AnsweringVpp where
  interfaces : List SwInterfaceDetails
  span : AList fun _ : SpanKey => SpanState
  /-- Whether the next SPAN requests are refused. -/
  refusals : List Bool

namespace AnsweringVpp

def shown (v : AnsweringVpp) : Vpp := ⟨v.interfaces, v.span.toFinmap⟩

def listed (v : AnsweringVpp) (isL2 : Bool) : List SwInterfaceSpanDetails :=
  (v.span.entries.filter fun x => x.1.isL2 = isL2).map fun x =>
    ⟨x.1.swIfIndexFrom, x.1.swIfIndexTo, x.2, x.1.isL2⟩

def write (v : AnsweringVpp) (w : Write SpanKey SpanState) : AnsweringVpp :=
  match w.value with
  | some state => { v with span := v.span.insert w.key state }
  | none => { v with span := v.span.erase w.key }

def acknowledgement : VapiAnswer := .replied .ok (some 0)

def refusal : VapiAnswer := .replied .ok (some (-1))

def answer (v : AnsweringVpp) : (c : BoyCall) → Option (BoyReply c × AnsweringVpp)
  | .vapiCtxAlloc => some (.ok, v)
  | .vapiConnect _ => some (.ok, v)
  | .vapiDisconnect => some ((), v)
  | .vapiCtxFree => some ((), v)
  | .vapiAlloc _ => some (true, v)
  | .swInterfaceDump => some (.listing v.interfaces, v)
  | .swInterfaceSpanDump isL2 => some (.listing (v.listed isL2), v)
  | .swInterfaceSetFlags swIfIndex flags =>
    some (acknowledgement, { v with interfaces := v.interfaces.map (.orFlags swIfIndex flags) })
  | .swInterfaceSpanEnableDisable swIfIndexFrom swIfIndexTo state isL2 =>
    match v.refusals with
    | true :: refusals => some (refusal, { v with refusals := refusals })
    | _ => some (acknowledgement,
        { v.write (spanWrite swIfIndexFrom swIfIndexTo state isL2) with
          refusals := v.refusals.tail })
  | .memifDump => some (.listing [], v)
  | .memifCreate _ => some (.silent .enotsup, v)
  | .cliInband _ => some (.silent .enotsup, v)
  | .showVersion => some (.silent .enotsup, v)
  | .malloc _ => some (true, v)
  | .calloc .. => some (true, v)
  | .realloc _ => some (true, v)
  | .stuck => none
  | .boyLogStart _ => some ((), v)
  | .boyLog .. => some ((), v)
  | .appTableRender .. => some ((), v)
  | .appPrintVersion _ => some ((), v)

theorem shown_write (v : AnsweringVpp) (w : Write SpanKey SpanState) :
    (v.write w).shown = ⟨v.interfaces, v.shown.span.write w⟩ := by
  obtain ⟨key, value⟩ := w
  cases value with
  | none => simp [write, shown, Store.write, Finmap.erase_toFinmap]
  | some state => simp [write, shown, Store.write, Finmap.insert_toFinmap]

theorem lists_listed (v : AnsweringVpp) (isL2 : Bool) :
    Lists v.shown.span isL2 (v.listed isL2) where
  nodup := by
    have keys : (v.listed isL2).map (·.key) =
        (v.span.entries.map Sigma.fst).filter (·.isL2 = isL2) := by
      rw [listed, List.map_map, List.filter_map]
      rfl
    rw [keys]
    exact v.span.nodupKeys.filter _
  mem_iff d := by
    have lookup : v.shown.span.lookup d.key = some d.state ↔ ⟨d.key, d.state⟩ ∈ v.span.entries :=
      AList.mem_lookup_iff
    rw [lookup, listed, List.mem_map]
    constructor
    · rintro ⟨⟨key, state⟩, hx, rfl⟩
      obtain ⟨there, layer⟩ := List.mem_filter.mp hx
      exact ⟨by simpa using layer, there⟩
    · rintro ⟨layer, there⟩
      exact ⟨⟨d.key, d.state⟩, List.mem_filter.mpr ⟨there, decide_eq_true layer⟩, rfl⟩

/-- Its replies are replies of VPP. -/
theorem serves_answer (v : AnsweringVpp) (c : BoyCall) (r : BoyReply c) (v' : AnsweringVpp)
    (h : v.answer c = some (r, v')) : vppServe v.shown c r v'.shown := by
  cases c with
  | swInterfaceDump =>
    simp only [answer, Option.some.injEq, Prod.mk.injEq] at h
    obtain ⟨rfl, rfl⟩ := h
    exact ⟨.inr rfl, rfl⟩
  | swInterfaceSpanDump isL2 =>
    simp only [answer, Option.some.injEq, Prod.mk.injEq] at h
    obtain ⟨rfl, rfl⟩ := h
    exact ⟨.inr ⟨_, v.lists_listed isL2, rfl⟩, rfl⟩
  | swInterfaceSetFlags swIfIndex flags =>
    simp only [answer, Option.some.injEq, Prod.mk.injEq] at h
    obtain ⟨rfl, rfl⟩ := h
    exact (if_pos rfl).symm
  | swInterfaceSpanEnableDisable swIfIndexFrom swIfIndexTo state isL2 =>
    simp only [answer] at h
    split at h
    · simp only [Option.some.injEq, Prod.mk.injEq] at h
      obtain ⟨rfl, rfl⟩ := h
      exact (if_neg (by decide)).symm
    · simp only [Option.some.injEq, Prod.mk.injEq] at h
      obtain ⟨rfl, rfl⟩ := h
      have written := shown_write v (spanWrite swIfIndexFrom swIfIndexTo state isL2)
      exact written.trans (if_pos rfl).symm
  | memifCreate payload =>
    simp only [answer, Option.some.injEq, Prod.mk.injEq] at h
    obtain ⟨rfl, rfl⟩ := h
    exact ⟨id, rfl⟩
  | stuck => cases h
  | _ =>
    simp only [answer, Option.some.injEq, Prod.mk.injEq] at h
    obtain ⟨_, rfl⟩ := h
    rfl

/-- A run against it. -/
def run {α : Type} (p : Boy α) (v : AnsweringVpp) : Option (List BoyEvent × AnsweringVpp × α) :=
  play answer p v

theorem exec_run {α : Type} {p : Boy α} {v : AnsweringVpp} (h : (v.run p).isSome) :
    Exec vppServe p v.shown ((v.run p).get h).1 ((v.run p).get h).2.1.shown ((v.run p).get h).2.2 :=
  exec_get serves_answer h

theorem exec_run_eq {α : Type} {p : Boy α} {v : AnsweringVpp} (h : (v.run p).isSome) {a : α}
    (answer : ((v.run p).get h).2.2 = a) :
    Exec vppServe p v.shown ((v.run p).get h).1 ((v.run p).get h).2.1.shown a := answer ▸ exec_run h

end AnsweringVpp

/-- An interface that is up. -/
def sampleInterface (swIfIndex : UInt32) (type : IfType) (name : String) : SwInterfaceDetails where
  swIfIndex := swIfIndex
  type := type
  flags := ifStatusApiFlagAdminUp
  linkSpeed := 0
  interfaceName := .of name.toList
  interfaceDevType := .of "dpdk".toList
  l2Address := Vector.replicate 6 0

end BeastieBoy
