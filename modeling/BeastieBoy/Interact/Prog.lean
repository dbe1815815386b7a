import Mathlib.Logic.Basic

/-!
# Programs that make calls

A sequential program seen from outside: it makes a call, waits for the reply,
and goes on. What a call does is left to a *server*, so one program text is read
against any surroundings:

* `Follows p tr a`: `p` makes exactly the calls of `tr`, gets these replies, and
  answers `a`, whatever the surroundings;
* `Begins p tr`: `p` makes the calls of `tr` first, whether or not it ever ends;
* `Serves srv s tr s'`: the server can give these replies in this order;
* `Exec srv p s tr s' a`: both, a complete run.
-/

namespace Interact

/-- An answer, or a call and how to go on with each reply to it. -/
inductive Prog (Call : Type) (Reply : Call → Type) (α : Type) : Type where
  | done (a : α)
  | call (c : Call) (next : Reply c → Prog Call Reply α)

/-- One call with the reply it got. -/
structure Event {Call : Type} (Reply : Call → Type) where
  call : Call
  reply : Reply call

/-- What the surroundings may do with a call: state before, reply, state after. -/
abbrev Server (Call : Type) (Reply : Call → Type) (S : Type) :=
  S → (c : Call) → Reply c → S → Prop

variable {Call : Type} {Reply : Call → Type} {S α β : Type}

namespace Prog

def bind : Prog Call Reply α → (α → Prog Call Reply β) → Prog Call Reply β
  | done a, f => f a
  | call c next, f => call c fun r => (next r).bind f

instance : Monad (Prog Call Reply) where
  pure := done
  bind := bind

def request (c : Call) : Prog Call Reply (Reply c) := call c done

@[simp] theorem pure_eq (a : α) : (pure a : Prog Call Reply α) = done a := rfl

@[simp] theorem done_bind (a : α) (f : α → Prog Call Reply β) : done a >>= f = f a := rfl

@[simp] theorem call_bind (c : Call) (next : Reply c → Prog Call Reply α)
    (f : α → Prog Call Reply β) : call c next >>= f = call c fun r => next r >>= f := rfl

@[simp] theorem request_bind (c : Call) (f : Reply c → Prog Call Reply β) :
    request c >>= f = call c f := rfl

theorem bind_done (p : Prog Call Reply α) : p >>= done = p := by
  induction p with
  | done a => rfl
  | call c next ih => exact congrArg (call c) (funext ih)

/-- Every call the program can ever make satisfies `K`, every answer `R`. -/
def Only (K : Call → Prop) (R : α → Prop) : Prog Call Reply α → Prop
  | done a => R a
  | call c next => K c ∧ ∀ r, (next r).Only K R

theorem Only.bind {K : Call → Prop} {R : α → Prop} {T : β → Prop} {p : Prog Call Reply α}
    {f : α → Prog Call Reply β} (hp : p.Only K R) (hf : ∀ a, R a → (f a).Only K T) :
    (p >>= f).Only K T := by
  induction p with
  | done a => exact hf a hp
  | call c next ih => exact ⟨hp.1, fun r => ih r (hp.2 r)⟩

theorem Only.mono {K K' : Call → Prop} {R R' : α → Prop} {p : Prog Call Reply α}
    (hp : p.Only K R) (hK : ∀ c, K c → K' c) (hR : ∀ a, R a → R' a) : p.Only K' R' := by
  induction p with
  | done a => exact hR a hp
  | call c next ih => exact ⟨hK c hp.1, fun r => ih r (hp.2 r)⟩

theorem Only.attempt {K : Call → Prop} {R : Option α → Prop} {T : Option β → Prop}
    {m : OptionT (Prog Call Reply) α} {f : α → OptionT (Prog Call Reply) β} (hm : m.run.Only K R)
    (given_up : R none → T none) (hf : ∀ a, R (some a) → (f a).run.Only K T) :
    (m >>= f).run.Only K T := by
  apply Only.bind hm
  intro a ha
  cases a with
  | none => exact given_up ha
  | some a => exact hf a ha

/-- As long as every reply satisfies `ok`, every answer satisfies `R`. -/
def Given (ok : Event Reply → Prop) (R : α → Prop) : Prog Call Reply α → Prop
  | done a => R a
  | call c next => ∀ r, ok ⟨c, r⟩ → (next r).Given ok R

theorem Given.bind {ok : Event Reply → Prop} {R : α → Prop} {T : β → Prop} {p : Prog Call Reply α}
    {f : α → Prog Call Reply β} (hp : p.Given ok R) (hf : ∀ a, R a → (f a).Given ok T) :
    (p >>= f).Given ok T := by
  induction p with
  | done a => exact hf a hp
  | call c next ih => exact fun r hr => ih r (hp r hr)

theorem Given.attempt {ok : Event Reply → Prop} {R : Option α → Prop} {T : Option β → Prop}
    {m : OptionT (Prog Call Reply) α} {f : α → OptionT (Prog Call Reply) β} (hm : m.run.Given ok R)
    (given_up : R none → T none) (hf : ∀ a, R (some a) → (f a).run.Given ok T) :
    (m >>= f).run.Given ok T := by
  apply Given.bind hm
  intro a ha
  cases a with
  | none => exact given_up ha
  | some a => exact hf a ha

theorem given_true {ok : Event Reply → Prop} (p : Prog Call Reply α) :
    p.Given ok fun _ => True := by
  induction p with
  | done a => trivial
  | call c next ih => exact fun r _ => ih r

end Prog

/-- `p` can make the calls of `tr` with these replies and then answer `a`. -/
inductive Follows : Prog Call Reply α → List (Event Reply) → α → Prop
  | done (a : α) : Follows (.done a) [] a
  | call {c : Call} {next : Reply c → Prog Call Reply α} {r : Reply c}
      {tr : List (Event Reply)} {a : α} (rest : Follows (next r) tr a) :
      Follows (.call c next) (⟨c, r⟩ :: tr) a

theorem follows_done_iff {a b : α} {tr : List (Event Reply)} :
    Follows (.done a) tr b ↔ tr = [] ∧ b = a := by
  constructor
  · intro h; cases h; exact ⟨rfl, rfl⟩
  · rintro ⟨rfl, rfl⟩; exact .done _

theorem follows_call_iff {c : Call} {next : Reply c → Prog Call Reply α}
    {tr : List (Event Reply)} {a : α} :
    Follows (.call c next) tr a ↔ ∃ r tr', tr = ⟨c, r⟩ :: tr' ∧ Follows (next r) tr' a := by
  constructor
  · intro h; cases h with | call rest => exact ⟨_, _, rfl, rest⟩
  · rintro ⟨r, tr', rfl, rest⟩; exact .call rest

theorem follows_bind_iff {p : Prog Call Reply α} {f : α → Prog Call Reply β}
    {tr : List (Event Reply)} {b : β} :
    Follows (p >>= f) tr b ↔
      ∃ t₁ a t₂, tr = t₁ ++ t₂ ∧ Follows p t₁ a ∧ Follows (f a) t₂ b := by
  constructor
  · induction p generalizing tr with
    | done a => exact fun h => ⟨[], a, tr, rfl, .done a, h⟩
    | call c next ih =>
      intro h
      obtain ⟨r, tr', rfl, rest⟩ := follows_call_iff.1 h
      obtain ⟨t₁, a, t₂, rfl, h₁, h₂⟩ := ih r rest
      exact ⟨⟨c, r⟩ :: t₁, a, t₂, rfl, .call h₁, h₂⟩
  · rintro ⟨t₁, a, t₂, rfl, h₁, h₂⟩
    induction h₁ with
    | done a => exact h₂
    | call _ ih => exact .call (ih h₂)

/-- A program's events and its answer satisfy whatever all of them do. -/
theorem Follows.of_only {K : Call → Prop} {R : α → Prop} {p : Prog Call Reply α}
    {tr : List (Event Reply)} {a : α} (h : Follows p tr a) (hp : p.Only K R) :
    (∀ e ∈ tr, K e.call) ∧ R a := by
  induction h with
  | done a => exact ⟨by simp, hp⟩
  | call _ ih =>
    obtain ⟨rest, answer⟩ := ih (hp.2 _)
    refine ⟨?_, answer⟩
    intro e he
    rcases List.mem_cons.mp he with rfl | he
    · exact hp.1
    · exact rest e he

theorem Follows.of_given {ok : Event Reply → Prop} {R : α → Prop} {p : Prog Call Reply α}
    {tr : List (Event Reply)} {a : α} (h : Follows p tr a) (all : ∀ e ∈ tr, ok e)
    (hp : p.Given ok R) : R a := by
  induction h with
  | done a => exact hp
  | call _ ih =>
    apply ih fun e he => all e (List.mem_cons_of_mem _ he)
    exact hp _ (all _ List.mem_cons_self)

/-- An attempt that was given up ends what follows it too. -/
theorem follows_attempt_iff {m : OptionT (Prog Call Reply) α} {f : α → OptionT (Prog Call Reply) β}
    {tr : List (Event Reply)} {b : Option β} :
    Follows (m >>= f).run tr b ↔
      Follows m.run tr none ∧ b = none ∨
      ∃ t₁ a t₂, tr = t₁ ++ t₂ ∧ Follows m.run t₁ (some a) ∧ Follows (f a).run t₂ b := by
  have unfolded : (m >>= f).run = m.run >>= fun
      | some a => (f a).run
      | none => .done none := rfl
  rw [unfolded, follows_bind_iff]
  constructor
  · rintro ⟨t₁, a, t₂, rfl, h₁, h₂⟩
    cases a with
    | none =>
      obtain ⟨rfl, rfl⟩ := follows_done_iff.1 h₂
      exact .inl ⟨by simpa using h₁, rfl⟩
    | some a => exact .inr ⟨t₁, a, t₂, rfl, h₁, h₂⟩
  · rintro (⟨h, rfl⟩ | ⟨t₁, a, t₂, rfl, h₁, h₂⟩)
    · exact ⟨tr, none, [], by simp, h, .done _⟩
    · exact ⟨t₁, some a, t₂, rfl, h₁, h₂⟩

theorem follows_lift_iff {p : Prog Call Reply α} {tr : List (Event Reply)} {b : Option α} :
    Follows (liftM p : OptionT (Prog Call Reply) α).run tr b ↔
      ∃ a, b = some a ∧ Follows p tr a := by
  have unfolded : (liftM p : OptionT (Prog Call Reply) α).run = p >>= fun a => .done (some a) := rfl
  rw [unfolded, follows_bind_iff]
  constructor
  · rintro ⟨t₁, a, t₂, rfl, h₁, h₂⟩
    obtain ⟨rfl, rfl⟩ := follows_done_iff.1 h₂
    exact ⟨a, rfl, by simpa using h₁⟩
  · rintro ⟨a, rfl, h⟩
    exact ⟨tr, a, [], by simp, h, .done _⟩

/-- `p` can make the calls of `tr` with these replies, and be anywhere behind them. -/
inductive Begins : Prog Call Reply α → List (Event Reply) → Prop
  | start (p : Prog Call Reply α) : Begins p []
  | call {c : Call} {next : Reply c → Prog Call Reply α} {r : Reply c} {tr : List (Event Reply)}
      (rest : Begins (next r) tr) : Begins (.call c next) (⟨c, r⟩ :: tr)

theorem Follows.begins {p : Prog Call Reply α} {tr : List (Event Reply)} {a : α}
    (h : Follows p tr a) : Begins p tr := by
  induction h with
  | done a => exact .start _
  | call _ ih => exact .call ih

theorem begins_call_iff {c : Call} {next : Reply c → Prog Call Reply α} {tr : List (Event Reply)} :
    Begins (.call c next) tr ↔ tr = [] ∨ ∃ r tr', tr = ⟨c, r⟩ :: tr' ∧ Begins (next r) tr' := by
  constructor
  · intro h
    cases h with
    | start => exact .inl rfl
    | call rest => exact .inr ⟨_, _, rfl, rest⟩
  · rintro (rfl | ⟨r, tr', rfl, rest⟩)
    · exact .start _
    · exact .call rest

theorem Begins.left {p : Prog Call Reply α} {t u : List (Event Reply)} (h : Begins p (t ++ u)) :
    Begins p t := by
  induction t generalizing p with
  | nil => exact .start p
  | cons e t ih =>
    cases h with
    | call rest => exact .call (ih rest)

/-- A run that has begun is still in its first part, or has ended it. -/
theorem begins_bind {p : Prog Call Reply α} {f : α → Prog Call Reply β} {tr : List (Event Reply)}
    (h : Begins (p >>= f) tr) :
    Begins p tr ∨ ∃ t₁ a t₂, tr = t₁ ++ t₂ ∧ Follows p t₁ a ∧ Begins (f a) t₂ := by
  induction p generalizing tr with
  | done a => exact .inr ⟨[], a, tr, rfl, .done a, h⟩
  | call c next ih =>
    rcases begins_call_iff.1 h with rfl | ⟨r, tr', rfl, rest⟩
    · exact .inl (.start _)
    · rcases ih r rest with first | ⟨t₁, a, t₂, rfl, h₁, h₂⟩
      · exact .inl (.call first)
      · exact .inr ⟨⟨c, r⟩ :: t₁, a, t₂, rfl, .call h₁, h₂⟩

theorem Begins.of_only {K : Call → Prop} {R : α → Prop} {p : Prog Call Reply α}
    {tr : List (Event Reply)} (h : Begins p tr) (hp : p.Only K R) : ∀ e ∈ tr, K e.call := by
  induction h with
  | start => simp
  | call _ ih =>
    intro e he
    rcases List.mem_cons.mp he with rfl | he
    · exact hp.1
    · exact ih (hp.2 _) e he

theorem begins_attempt {m : OptionT (Prog Call Reply) α} {f : α → OptionT (Prog Call Reply) β}
    {tr : List (Event Reply)} (h : Begins (m >>= f).run tr) :
    Begins m.run tr ∨ ∃ t₁ a t₂, tr = t₁ ++ t₂ ∧ Follows m.run t₁ (some a) ∧
      Begins (f a).run t₂ := by
  rcases begins_bind h with first | ⟨t₁, a, t₂, rfl, h₁, h₂⟩
  · exact .inl first
  · cases a with
    | none =>
      cases h₂ with
      | start =>
        rw [List.append_nil]
        exact .inl h₁.begins
    | some a => exact .inr ⟨t₁, a, t₂, rfl, h₁, h₂⟩

/-- The two programs make the same calls, and end with answers that `R` relates. -/
inductive Simulates (R : α → β → Prop) : Prog Call Reply α → Prog Call Reply β → Prop
  | done {a : α} {b : β} (h : R a b) : Simulates R (.done a) (.done b)
  | call {c : Call} {f : Reply c → Prog Call Reply α} {g : Reply c → Prog Call Reply β}
      (rest : ∀ r, Simulates R (f r) (g r)) : Simulates R (.call c f) (.call c g)

theorem Simulates.bind {γ δ : Type} {R : α → β → Prop} {T : γ → δ → Prop} {p : Prog Call Reply α}
    {q : Prog Call Reply β} {f : α → Prog Call Reply γ} {g : β → Prog Call Reply δ}
    (h : Simulates R p q) (hf : ∀ a b, R a b → Simulates T (f a) (g b)) :
    Simulates T (p >>= f) (q >>= g) := by
  induction h with
  | done h => exact hf _ _ h
  | call _ ih => exact .call ih

theorem Simulates.refl (p : Prog Call Reply α) : Simulates Eq p p := by
  induction p with
  | done a => exact .done rfl
  | call c next ih => exact .call ih

theorem Simulates.with_only {R : α → β → Prop} {K : Call → Prop} {T : β → Prop}
    {p : Prog Call Reply α} {q : Prog Call Reply β} (h : Simulates R p q) (hq : q.Only K T) :
    Simulates (fun a b => R a b ∧ T b) p q := by
  induction h with
  | done h => exact .done ⟨h, hq⟩
  | call _ ih => exact .call fun r => ih r (hq.2 r)

theorem Simulates.follows {R : α → β → Prop} {p : Prog Call Reply α} {q : Prog Call Reply β}
    {tr : List (Event Reply)} {a : α} (h : Simulates R p q) (run : Follows p tr a) :
    ∃ b, Follows q tr b ∧ R a b := by
  induction run generalizing q with
  | done a => cases h with | done h => exact ⟨_, .done _, h⟩
  | call _ ih =>
    cases h with
    | call rest =>
      obtain ⟨b, run, h⟩ := ih (rest _)
      exact ⟨b, .call run, h⟩

theorem Simulates.followed {R : α → β → Prop} {p : Prog Call Reply α} {q : Prog Call Reply β}
    {tr : List (Event Reply)} {b : β} (h : Simulates R p q) (run : Follows q tr b) :
    ∃ a, Follows p tr a ∧ R a b := by
  induction h generalizing tr with
  | done h =>
    obtain ⟨rfl, rfl⟩ := follows_done_iff.1 run
    exact ⟨_, .done _, h⟩
  | call _ ih =>
    obtain ⟨r, tr', rfl, rest⟩ := follows_call_iff.1 run
    obtain ⟨a, run, h⟩ := ih r rest
    exact ⟨a, .call run, h⟩

/-- The server can give these replies, in this order. -/
inductive Serves (srv : Server Call Reply S) : S → List (Event Reply) → S → Prop
  | nil (s : S) : Serves srv s [] s
  | cons {s s' s'' : S} {e : Event Reply} {tr : List (Event Reply)}
      (step : srv s e.call e.reply s') (rest : Serves srv s' tr s'') :
      Serves srv s (e :: tr) s''

theorem serves_nil_iff {srv : Server Call Reply S} {s s' : S} :
    Serves srv s [] s' ↔ s' = s := by
  constructor
  · intro h; cases h; rfl
  · rintro rfl; exact .nil _

theorem serves_cons_iff {srv : Server Call Reply S} {s s'' : S} {e : Event Reply}
    {tr : List (Event Reply)} :
    Serves srv s (e :: tr) s'' ↔ ∃ s', srv s e.call e.reply s' ∧ Serves srv s' tr s'' := by
  constructor
  · intro h; cases h with | cons step rest => exact ⟨_, step, rest⟩
  · rintro ⟨s', step, rest⟩; exact .cons step rest

theorem serves_append_iff {srv : Server Call Reply S} {s s'' : S} {t₁ t₂ : List (Event Reply)} :
    Serves srv s (t₁ ++ t₂) s'' ↔ ∃ s', Serves srv s t₁ s' ∧ Serves srv s' t₂ s'' := by
  induction t₁ generalizing s with
  | nil => simp [serves_nil_iff]
  | cons e t₁ ih =>
    simp only [List.cons_append, serves_cons_iff, ih]
    constructor
    · rintro ⟨a, ha, b, hb, hc⟩; exact ⟨b, ⟨a, ha, hb⟩, hc⟩
    · rintro ⟨b, ⟨a, ha, hb⟩, hc⟩; exact ⟨a, ha, b, hb, hc⟩

/-- Replies that leave the state alone leave it alone together. -/
theorem Serves.frame {srv : Server Call Reply S} {T : Type} {f : S → T} {s s' : S}
    {tr : List (Event Reply)} (h : Serves srv s tr s')
    (quiet : ∀ s e s', e ∈ tr → srv s e.call e.reply s' → f s' = f s) : f s' = f s := by
  induction h with
  | nil s => rfl
  | cons step _ ih =>
    rw [ih fun s e s' he => quiet s e s' (List.mem_cons_of_mem _ he)]
    exact quiet _ _ _ List.mem_cons_self step

/-- A complete run of one program against one server. -/
structure Exec (srv : Server Call Reply S) (p : Prog Call Reply α) (s : S)
    (tr : List (Event Reply)) (s' : S) (a : α) : Prop where
  follows : Follows p tr a
  serves : Serves srv s tr s'

/-! ## Possible runs -/

namespace Prog

/-- Some run against the server, with replies that satisfy `ok`, ends as `R` says. -/
def May (srv : Server Call Reply S) (ok : Event Reply → Prop) (R : α → S → Prop) :
    Prog Call Reply α → S → Prop
  | done a, s => R a s
  | call c next, s => ∃ r s', srv s c r s' ∧ ok ⟨c, r⟩ ∧ (next r).May srv ok R s'

variable {srv : Server Call Reply S} {ok : Event Reply → Prop}

theorem May.bind {R : α → S → Prop} {T : β → S → Prop} {p : Prog Call Reply α}
    {f : α → Prog Call Reply β} {s : S} (hp : p.May srv ok R s)
    (hf : ∀ a s', R a s' → (f a).May srv ok T s') : (p >>= f).May srv ok T s := by
  induction p generalizing s with
  | done a => exact hf a s hp
  | call c next ih =>
    obtain ⟨r, s', step, good, rest⟩ := hp
    exact ⟨r, s', step, good, ih r rest⟩

theorem May.attempt {R : Option α → S → Prop} {T : Option β → S → Prop}
    {m : OptionT (Prog Call Reply) α} {f : α → OptionT (Prog Call Reply) β} {s : S}
    (hm : m.run.May srv ok R s) (given_up : ∀ s', R none s' → T none s')
    (hf : ∀ a s', R (some a) s' → (f a).run.May srv ok T s') : (m >>= f).run.May srv ok T s := by
  apply May.bind hm
  intro a s' ha
  cases a with
  | none => exact given_up s' ha
  | some a => exact hf a s' ha

theorem May.mono {R T : α → S → Prop} {p : Prog Call Reply α} {s : S} (hp : p.May srv ok R s)
    (h : ∀ a s', R a s' → T a s') : p.May srv ok T s := by
  induction p generalizing s with
  | done a => exact h a s hp
  | call c next ih =>
    obtain ⟨r, s', step, good, rest⟩ := hp
    exact ⟨r, s', step, good, ih r rest⟩

theorem May.exists_exec {R : α → S → Prop} {p : Prog Call Reply α} {s : S} (hp : p.May srv ok R s) :
    ∃ tr s' a, Exec srv p s tr s' a ∧ (∀ e ∈ tr, ok e) ∧ R a s' := by
  induction p generalizing s with
  | done a => exact ⟨[], s, a, ⟨.done a, .nil s⟩, by simp, hp⟩
  | call c next ih =>
    obtain ⟨r, s₁, step, good, rest⟩ := hp
    obtain ⟨tr, s', a, run, all, answer⟩ := ih r rest
    exact ⟨⟨c, r⟩ :: tr, s', a, ⟨.call run.follows, .cons step run.serves⟩,
      by simpa using ⟨good, all⟩,
      answer⟩

end Prog

end Interact
