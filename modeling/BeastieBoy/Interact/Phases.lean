import BeastieBoy.Interact.Prog

/-!
# Protocols

A protocol says which calls may come in which phase, and which phase a reply
leads to. A program *speaks* it when, whatever the replies, it makes no call that
its phase does not allow.
-/

namespace Interact

/-- `none` where the phase does not allow the call. -/
structure Protocol (Call : Type) (Reply : Call → Type) (Phase : Type) where
  next : Phase → (c : Call) → Option (Reply c → Phase)

variable {Call : Type} {Reply : Call → Type} {Phase α β : Type} {P : Protocol Call Reply Phase}

/-- The events are all allowed, and lead from one phase to another. -/
inductive Protocol.Passes (P : Protocol Call Reply Phase) : Phase → List (Event Reply) →
    Phase → Prop
  | nil (s : Phase) : Passes P s [] s
  | cons {s s' : Phase} {e : Event Reply} {tr : List (Event Reply)} {behind : Reply e.call → Phase}
      (allowed : P.next s e.call = some behind) (rest : Passes P (behind e.reply) tr s') :
        Passes P s (e :: tr) s'

namespace Protocol.Passes

theorem append {s s' s'' : Phase} {t u : List (Event Reply)} (h : P.Passes s t s')
    (h' : P.Passes s' u s'') :
    P.Passes s (t ++ u) s'' := by
  induction h with
  | nil => exact h'
  | cons allowed _ ih => exact .cons allowed (ih h')

theorem split {s s'' : Phase} {t u : List (Event Reply)} (h : P.Passes s (t ++ u) s'') :
    ∃ s', P.Passes s t s' ∧ P.Passes s' u s'' := by
  induction t generalizing s with
  | nil => exact ⟨s, .nil s, h⟩
  | cons e t ih =>
    cases h with
    | cons allowed rest =>
      obtain ⟨s', first, later⟩ := ih rest
      exact ⟨s', .cons allowed first, later⟩

/-- A relation between the phase and what happened so far holds behind every event. -/
theorem keeps {s s' : Phase} {tr : List (Event Reply)} (h : P.Passes s tr s')
    {I : Phase → List (Event Reply) → Prop}
    (step : ∀ s e behind t, P.next s e.call = some behind → I s t → I (behind e.reply) (t ++ [e]))
    {before : List (Event Reply)} (start : I s before) : I s' (before ++ tr) := by
  induction h generalizing before with
  | nil s =>
    rw [List.append_nil]
    exact start
  | @cons s s' e tr behind allowed _ ih =>
    have later := ih (step s e behind before allowed start)
    rwa [List.append_assoc] at later

end Protocol.Passes

namespace Prog

def Speaks (P : Protocol Call Reply Phase) (R : α → Phase → Prop) : Prog Call Reply α → Phase → Prop
  | done a, s => R a s
  | call c next, s => ∃ behind, P.next s c = some behind ∧ ∀ r, (next r).Speaks P R (behind r)

variable {R : α → Phase → Prop} {T : β → Phase → Prop} {p : Prog Call Reply α} {s : Phase}

theorem Speaks.bind {f : α → Prog Call Reply β} (hp : p.Speaks P R s)
    (hf : ∀ a s', R a s' → (f a).Speaks P T s') : (p >>= f).Speaks P T s := by
  induction p generalizing s with
  | done a => exact hf a s hp
  | call c next ih =>
    obtain ⟨behind, allowed, rest⟩ := hp
    exact ⟨behind, allowed, fun r => ih r (rest r)⟩

theorem Speaks.mono {R' : α → Phase → Prop} (hp : p.Speaks P R s)
    (weaker : ∀ a s', R a s' → R' a s') :
    p.Speaks P R' s := by
  induction p generalizing s with
  | done a => exact weaker a s hp
  | call c next ih =>
    obtain ⟨behind, allowed, rest⟩ := hp
    exact ⟨behind, allowed, fun r => ih r (rest r)⟩

theorem Speaks.attempt {R : Option α → Phase → Prop} {T : Option β → Phase → Prop}
    {m : OptionT (Prog Call Reply) α} {f : α → OptionT (Prog Call Reply) β}
    (hm : m.run.Speaks P R s) (given_up : ∀ s', R none s' → T none s')
    (hf : ∀ a s', R (some a) s' → (f a).run.Speaks P T s') :
    (m >>= f).run.Speaks P T s := by
  apply Speaks.bind hm
  intro a s' ha
  cases a with
  | none => exact given_up s' ha
  | some a => exact hf a s' ha

/-- Calls that are allowed in a phase and lead to no other. -/
theorem Only.speaks {K : Call → Prop} {R : α → Prop} (hp : p.Only K R)
    (stays : ∀ c, K c → P.next s c = some fun _ => s) :
    p.Speaks P (fun a s' => R a ∧ s' = s) s := by
  induction p with
  | done a => exact ⟨hp, rfl⟩
  | call c next ih => exact ⟨_, stays c hp.1, fun r => ih r (hp.2 r)⟩

theorem Speaks.begins (hp : p.Speaks P R s) {tr : List (Event Reply)} (run : Begins p tr) :
    ∃ s', P.Passes s tr s' := by
  induction run generalizing s with
  | start => exact ⟨s, .nil s⟩
  | call _ ih =>
    obtain ⟨behind, allowed, rest⟩ := hp
    obtain ⟨s', later⟩ := ih (rest _)
    exact ⟨s', .cons allowed later⟩

theorem Speaks.follows (hp : p.Speaks P R s) {tr : List (Event Reply)} {a : α}
    (run : Follows p tr a) :
    ∃ s', P.Passes s tr s' ∧ R a s' := by
  induction run generalizing s with
  | done a => exact ⟨s, .nil s, hp⟩
  | call _ ih =>
    obtain ⟨behind, allowed, rest⟩ := hp
    obtain ⟨s', later, answer⟩ := ih (rest _)
    exact ⟨s', .cons allowed later, answer⟩

end Prog

end Interact
