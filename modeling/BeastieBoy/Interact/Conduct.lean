import BeastieBoy.Interact.Local
import BeastieBoy.Interact.Phases

/-!
# Protocols of a looping process

A process that speaks a protocol up to its loop, and from one loop test to the
next, speaks it all along, whenever an interrupt comes. A program with local
variables may count on what it keeps true of them.
-/

namespace Interact

variable {Call : Type} {Reply : Call → Type} {W σ α β Phase : Type}

/-- The phases a pass of the loop may end in. -/
def Ends (I : σ → Phase → Prop) (R : α → Phase → Prop) : Turn σ α → Phase → Prop
  | .again s => I s
  | .exit a => R a

theorem Prog.Speaks.run {P : Protocol Call Reply Phase} {I : σ → Phase → Prop}
    {R : α → Phase → Prop} {env : Surroundings Call Reply W} {ok : Guard Call Reply W}
    {body : σ → Prog Call Reply (Turn σ α)}
    (turns : ∀ s phase, I s phase → (body s).Speaks P (Ends I R) phase)
    {x y : Config Call Reply W σ α} (run : Run env body ok x y) {start phase : Phase}
    (so_far : P.Passes start (events x.trace) phase) (now : x.control.Speaks P (Ends I R) phase) :
    ∃ phase', P.Passes start (events y.trace) phase' ∧ y.control.Speaks P (Ends I R) phase' := by
  refine run.preserves (P := fun y => ∃ phase', P.Passes start (events y.trace) phase' ∧
    y.control.Speaks P (Ends I R) phase') ?_ ⟨phase, so_far, now⟩
  rintro a b step ⟨phase', passed, speaks⟩
  cases step with
  | reply served met =>
    obtain ⟨behind, allowed, rest⟩ := speaks
    refine ⟨_, ?_, rest _⟩
    rw [events_append]
    exact passed.append (.cons allowed (.nil _))
  | interrupt met =>
    refine ⟨phase', ?_, speaks⟩
    rw [events_append]
    exact passed.append (.nil _)
  | turn => exact ⟨phase', passed, turns _ _ speaks⟩

namespace Local

variable {P : Protocol (σ × Call) (fun c => Reply c.2) Phase} {I : σ → Prop} {R : α → Phase → Prop}
  {T : β → Phase → Prop} {phase : Phase}

/-- It speaks the protocol wherever `I` holds of the variables, and keeps it so. -/
def Speaks (P : Protocol (σ × Call) (fun c => Reply c.2) Phase) (I : σ → Prop)
    (R : α → Phase → Prop) (m : Local σ Call Reply α) (phase : Phase) : Prop :=
  ∀ s, I s → (m s).Speaks P (fun x phase' => I x.2 ∧ R x.1 phase') phase

theorem Speaks.bind {m : Local σ Call Reply α} {f : α → Local σ Call Reply β}
    (hm : Speaks P I R m phase)
    (hf : ∀ a phase', R a phase' → Speaks P I T (f a) phase') : Speaks P I T (m >>= f) phase := by
  intro s hs
  apply (hm s hs).bind
  rintro ⟨a, s'⟩ phase' ⟨kept, ha⟩
  exact hf a phase' ha s' kept

/-- A part whose answers all lead to one phase, and the rest. -/
theorem Speaks.seq {m : Local σ Call Reply α} {f : α → Local σ Call Reply β} {phase' : Phase}
    (hm : Speaks P I (fun _ p => p = phase') m phase)
    (hf : ∀ a, Speaks P I T (f a) phase') : Speaks P I T (m >>= f) phase := by
  apply hm.bind
  rintro a _ rfl
  exact hf a

theorem Speaks.mono {R' : α → Phase → Prop} {m : Local σ Call Reply α} (hm : Speaks P I R m phase)
    (weaker : ∀ a phase', R a phase' → R' a phase') : Speaks P I R' m phase :=
  fun s hs => (hm s hs).mono fun x phase' h => ⟨h.1, weaker x.1 phase' h.2⟩

theorem speaks_pure {a : α} (h : R a phase) : Speaks P I R (pure a : Local σ Call Reply α) phase :=
  fun _ hs => ⟨hs, h⟩

theorem speaks_vars_bind {f : σ → Local σ Call Reply β}
    (hf : ∀ s, I s → (f s s).Speaks P (fun x phase' => I x.2 ∧ T x.1 phase') phase) :
    Speaks P I T (vars >>= f) phase := hf

theorem Speaks.vars_bind {f : σ → Local σ Call Reply β} (hf : ∀ s, I s → Speaks P I T (f s) phase) :
    Speaks P I T (vars >>= f) phase := fun s hs => hf s hs s hs

theorem Speaks.update_bind {g : σ → σ} {f : Unit → Local σ Call Reply β}
    (keeps : ∀ s, I s → I (g s))
    (hf : Speaks P I T (f ()) phase) : Speaks P I T (update g >>= f) phase :=
  fun s hs => hf (g s) (keeps s hs)

theorem speaks_ask {c : Call} {behind : Reply c → Phase}
    (allowed : ∀ s, I s → P.next phase (s, c) = some behind) :
    Speaks P I (fun r phase' => phase' = behind r) (ask c : Local σ Call Reply (Reply c)) phase :=
  fun s hs => ⟨behind, allowed s hs, fun _ => ⟨hs, rfl⟩⟩

theorem speaks_call {c : Call} {phase' : Phase}
    (allowed : ∀ s, I s → P.next phase (s, c) = some fun _ => phase') :
    Speaks P I (fun _ p => p = phase') (ask c : Local σ Call Reply (Reply c)) phase :=
  speaks_ask allowed

/-- A call, and what each reply leads to. -/
theorem Speaks.ask_bind {c : Call} {f : Reply c → Local σ Call Reply β} (behind : Reply c → Phase)
    (allowed : ∀ s, I s → P.next phase (s, c) = some behind)
    (hf : ∀ r, Speaks P I T (f r) (behind r)) :
    Speaks P I T (ask c >>= f) phase := by
  apply (speaks_ask allowed).bind
  rintro r _ rfl
  exact hf r

theorem Speaks.ite {p : Prop} [Decidable p] {m m' : Local σ Call Reply α}
    (hm : p → Speaks P I R m phase)
    (hm' : ¬ p → Speaks P I R m' phase) : Speaks P I R (if p then m else m') phase := by
  split
  · exact hm ‹p›
  · exact hm' ‹¬ p›

/-- Calls that lead to no other phase. -/
theorem Reads.speaks {K : Call → Prop} {m : Local σ Call Reply α} (h : Reads K m)
    (stays : ∀ s c, K c → P.next phase (s, c) = some fun _ => phase) :
    Speaks P I (fun _ phase' => phase' = phase) m phase := by
  intro s hs
  have same := Prog.Only.speaks (P := P) (s := phase) (h s) fun c hc => stays c.1 c.2 hc.1
  apply same.mono
  rintro x phase' ⟨kept, rfl⟩
  exact ⟨kept ▸ hs, rfl⟩

end Local

end Interact
