import BeastieBoy.Interact.Interrupts

/-!
# Programs with local variables

A program that also keeps variables of its own, of type `σ`. Only the program
changes them. Every call carries the values they have when it is made, so a
state of a run shows them.
-/

namespace Interact

abbrev Local (σ Call : Type) (Reply : Call → Type) (α : Type) :=
  StateT σ (Prog (σ × Call) fun c => Reply c.2) α

variable {σ Call : Type} {Reply : Call → Type} {W α β : Type}

namespace Local

def vars : Local σ Call Reply σ := fun s => .done (s, s)

def update (f : σ → σ) : Local σ Call Reply Unit := fun s => .done ((), f s)

def ask (c : Call) : Local σ Call Reply (Reply c) := fun s => .call (s, c) fun r => .done (r, s)

/-- An `if` without an `else`. -/
def whenever (p : Prop) [Decidable p] (m : Local σ Call Reply Unit) : Local σ Call Reply Unit :=
  if p then m else pure ()

theorem bind_run (m : Local σ Call Reply α) (f : α → Local σ Call Reply β) (s : σ) :
    (m >>= f) s = m s >>= fun x => f x.1 x.2 := rfl

theorem vars_bind (f : σ → Local σ Call Reply β) (s : σ) : (vars >>= f) s = f s s := rfl

theorem update_bind (g : σ → σ) (f : Unit → Local σ Call Reply β) (s : σ) :
    (update g >>= f) s = f () (g s) := rfl

theorem follows_pure_iff {a b : α} {s s' : σ} {tr : List (Event fun c : σ × Call => Reply c.2)} :
    Follows ((pure a : Local σ Call Reply α) s) tr (b, s') ↔ tr = [] ∧ b = a ∧ s' = s := by
  rw [← Prod.mk.injEq]
  exact follows_done_iff

theorem follows_ask_iff {c : Call} {f : Reply c → Local σ Call Reply β} {s : σ}
    {tr : List (Event fun c : σ × Call => Reply c.2)} {x : β × σ} :
    Follows ((ask c >>= f) s) tr x ↔
      ∃ r tr', tr = ⟨(s, c), r⟩ :: tr' ∧ Follows (f r s) tr' x := follows_call_iff

theorem follows_seq_iff {m : Local σ Call Reply α} {f : α → Local σ Call Reply β} {s : σ}
    {tr : List (Event fun c : σ × Call => Reply c.2)} {x : β × σ} :
    Follows ((m >>= f) s) tr x ↔
      ∃ t₁ a s' t₂, tr = t₁ ++ t₂ ∧ Follows (m s) t₁ (a, s') ∧ Follows (f a s') t₂ x := by
  rw [bind_run, follows_bind_iff]
  constructor
  · rintro ⟨t₁, ⟨a, s'⟩, t₂, eq, h₁, h₂⟩
    exact ⟨t₁, a, s', t₂, eq, h₁, h₂⟩
  · rintro ⟨t₁, a, s', t₂, eq, h₁, h₂⟩
    exact ⟨t₁, (a, s'), t₂, eq, h₁, h₂⟩

/-- Every call satisfies `K`, whatever the variables. -/
def Uses (K : Call → Prop) (m : Local σ Call Reply α) : Prop :=
  ∀ s, (m s).Only (fun c => K c.2) fun _ => True

/-- Every call satisfies `K`, and the variables stay as they are. -/
def Reads (K : Call → Prop) (m : Local σ Call Reply α) : Prop :=
  ∀ s, (m s).Only (fun c => K c.2 ∧ c.1 = s) fun x => x.2 = s

section Footprints
variable {K : Call → Prop}

theorem Reads.uses {m : Local σ Call Reply α} (h : Reads K m) : Uses K m :=
  fun s => (h s).mono (fun _ hc => hc.1) fun _ _ => trivial

theorem Uses.mono {K' : Call → Prop} {m : Local σ Call Reply α} (h : Uses K m)
    (hK : ∀ c, K c → K' c) : Uses K' m :=
  fun s => (h s).mono (fun c => hK c.2) fun _ ha => ha

theorem Reads.mono {K' : Call → Prop} {m : Local σ Call Reply α} (h : Reads K m)
    (hK : ∀ c, K c → K' c) : Reads K' m :=
  fun s => (h s).mono (fun c hc => ⟨hK c.2 hc.1, hc.2⟩) fun _ ha => ha

theorem uses_update (f : σ → σ) : Uses K (update f : Local σ Call Reply Unit) := fun _ => trivial

theorem Uses.bind {m : Local σ Call Reply α} {f : α → Local σ Call Reply β} (hm : Uses K m)
    (hf : ∀ a, Uses K (f a)) : Uses K (m >>= f) :=
  fun s => Prog.Only.bind (hm s) fun x _ => hf x.1 x.2

theorem Uses.ite {p : Prop} [Decidable p] {m m' : Local σ Call Reply α} (hm : Uses K m)
    (hm' : Uses K m') : Uses K (if p then m else m') := by
  split
  · exact hm
  · exact hm'

theorem reads_pure (a : α) : Reads K (pure a : Local σ Call Reply α) := fun _ => rfl

theorem reads_vars : Reads K (vars : Local σ Call Reply σ) := fun _ => rfl

theorem reads_ask {c : Call} (h : K c) : Reads K (ask c : Local σ Call Reply (Reply c)) :=
  fun _ => ⟨⟨h, rfl⟩, fun _ => rfl⟩

theorem Reads.bind {m : Local σ Call Reply α} {f : α → Local σ Call Reply β} (hm : Reads K m)
    (hf : ∀ a, Reads K (f a)) : Reads K (m >>= f) := by
  intro s
  apply Prog.Only.bind (hm s)
  rintro ⟨a, t⟩ rfl
  exact hf a t

theorem Reads.ite {p : Prop} [Decidable p] {m m' : Local σ Call Reply α} (hm : Reads K m)
    (hm' : Reads K m') : Reads K (if p then m else m') := by
  split
  · exact hm
  · exact hm'

theorem Reads.whenever {p : Prop} [Decidable p] {m : Local σ Call Reply Unit} (hm : Reads K m) :
    Reads K (whenever p m) := hm.ite (reads_pure ())

end Footprints

end Local

section Outlines
variable {env : Surroundings (σ × Call) (fun c => Reply c.2) W}
  {ok : Guard (σ × Call) (fun c => Reply c.2) W}
  {I : σ × Call → W → List (Act fun c : σ × Call => Reply c.2) → Prop}

/-- One call: an assertion that holds until the reply comes, and what each reply
leads to. -/
theorem Safe.ask {Q : β × σ → W → List (Act fun c : σ × Call => Reply c.2) → Prop} {c : Call}
    {f : Reply c → Local σ Call Reply β} {s : σ} {w : W}
    {tr : List (Act fun c : σ × Call => Reply c.2)}
    (P : W → List (Act fun c : σ × Call => Reply c.2) → Prop) (now : P w tr)
    (stable : ∀ w tr, P w tr → ok (some (s, c)) w tr .interrupt →
      P (env.interrupt w) (tr ++ [.interrupt]))
    (sound : ∀ w tr, P w tr → I (s, c) w tr)
    (onward : ∀ w tr r w', P w tr → env.serve w (s, c) r w' →
      ok (some (s, c)) w tr (.did ⟨(s, c), r⟩) →
      Safe env ok I Q (f r s) w' (tr ++ [.did ⟨(s, c), r⟩])) :
    Safe env ok I Q ((Local.ask c >>= f) s) w tr :=
  .call P now stable sound onward

theorem Safe.seq {Q : α × σ → W → List (Act fun c : σ × Call => Reply c.2) → Prop}
    {R : β × σ → W → List (Act fun c : σ × Call => Reply c.2) → Prop} {m : Local σ Call Reply α}
    {f : α → Local σ Call Reply β} {s : σ} {w : W}
    {tr : List (Act fun c : σ × Call => Reply c.2)} (first : Safe env ok I Q (m s) w tr)
    (rest : ∀ a s w tr, Q (a, s) w tr → Safe env ok I R (f a s) w tr) :
    Safe env ok I R ((m >>= f) s) w tr :=
  first.bind fun x => rest x.1 x.2

/-- An assertion that the calls and the interrupts preserve lasts through a
program. -/
theorem Safe.through {K : Call → Prop} {P : W → List (Act fun c : σ × Call => Reply c.2) → Prop}
    {m : Local σ Call Reply α} (uses : Local.Uses K m)
    (sound : ∀ s c w tr, K c → P w tr → I (s, c) w tr)
    (stable : ∀ s c w tr, K c → P w tr → ok (some (s, c)) w tr .interrupt →
      P (env.interrupt w) (tr ++ [.interrupt]))
    (step : ∀ s c w tr r w', K c → P w tr → env.serve w (s, c) r w' →
      ok (some (s, c)) w tr (.did ⟨(s, c), r⟩) → P w' (tr ++ [.did ⟨(s, c), r⟩]))
    {s : σ} {w : W} {tr : List (Act fun c : σ × Call => Reply c.2)} (now : P w tr) :
    Safe env ok I (fun _ w tr => P w tr) (m s) w tr :=
  (Safe.of_only (uses s) (fun c => stable c.1 c.2) (fun c => step c.1 c.2) now).weaken
    (fun c w tr h => sound c.1 c.2 w tr h.1 h.2) fun _ _ _ h => h.2

/-- The same where the variables are only read: the assertion may speak of them. -/
theorem Safe.reading {K : Call → Prop}
    {P : σ → W → List (Act fun c : σ × Call => Reply c.2) → Prop} {m : Local σ Call Reply α}
    (reads : Local.Reads K m) (sound : ∀ s c w tr, K c → P s w tr → I (s, c) w tr)
    (stable : ∀ s c w tr, K c → P s w tr → ok (some (s, c)) w tr .interrupt →
      P s (env.interrupt w) (tr ++ [.interrupt]))
    (step : ∀ s c w tr r w', K c → P s w tr → env.serve w (s, c) r w' →
      ok (some (s, c)) w tr (.did ⟨(s, c), r⟩) → P s w' (tr ++ [.did ⟨(s, c), r⟩]))
    {s : σ} {w : W} {tr : List (Act fun c : σ × Call => Reply c.2)} (now : P s w tr) :
    Safe env ok I (fun x w tr => P x.2 w tr) (m s) w tr := by
  refine (Safe.of_only (P := P s) (reads s) ?_ ?_ now).weaken ?_ ?_
  · rintro ⟨_, c⟩ w tr ⟨hK, rfl⟩
    exact stable _ c w tr hK
  · rintro ⟨_, c⟩ w tr r w' ⟨hK, rfl⟩
    exact step _ c w tr r w' hK
  · rintro ⟨_, c⟩ w tr ⟨⟨hK, rfl⟩, hP⟩
    exact sound _ c w tr hK hP
  · rintro ⟨_, _⟩ w tr ⟨rfl, hP⟩
    exact hP

end Outlines

end Interact
