import BeastieBoy.Interact.Prog
import BeastieBoy.Interact.Trace
import Mathlib.Logic.Relation

/-!
# A looping process that can be interrupted

A process runs a program; when the program ends with `again s` it starts the
loop body at `s`. Between any two of its calls, and while it waits for a reply,
an interrupt may change the world under it. The trace keeps every call with its
reply and every interrupt, in order.

* `Run`: the steps of such a process, each meeting a *guard*;
* `Safe`: a proof outline for one program. At each call it names an assertion
  that no interrupt breaks, which holds while the program waits;
* `run_meets`: a loop body that is safe from its invariant back to its invariant
  makes the outline hold in every state of every run;
* `drive`: the run against surroundings that answer by a function.
-/

namespace Interact

/-- How one pass of the program ends. -/
inductive Turn (σ α : Type) where
  | again (s : σ)
  | exit (a : α)

/-- An entry of the trace. -/
inductive Act {Call : Type} (Reply : Call → Type) where
  | did (e : Event Reply)
  | interrupt

structure Surroundings (Call : Type) (Reply : Call → Type) (W : Type) where
  serve : Server Call Reply W
  interrupt : W → W

/-- Which steps a family of runs may take: the call the process waits in, the
world, the trace so far, and the new entry. -/
abbrev Guard (Call : Type) (Reply : Call → Type) (W : Type) :=
  Option Call → W → List (Act Reply) → Act Reply → Prop

structure Config (Call : Type) (Reply : Call → Type) (W σ α : Type) where
  control : Prog Call Reply (Turn σ α)
  world : W
  trace : List (Act Reply)

variable {Call : Type} {Reply : Call → Type} {W σ α β : Type}

def Prog.pending : Prog Call Reply α → Option Call
  | .done _ => none
  | .call c _ => some c

/-- The calls of a trace, without the interrupts. -/
def events (tr : List (Act Reply)) : List (Event Reply) :=
  tr.filterMap fun
    | .did e => some e
    | .interrupt => none

@[simp] theorem events_append (t u : List (Act Reply)) :
    events (t ++ u) = events t ++ events u := by
  simp [events]

@[simp] theorem events_nil : events ([] : List (Act Reply)) = [] := rfl

@[simp] theorem events_did (e : Event Reply) (tr : List (Act Reply)) :
    events (.did e :: tr) = e :: events tr := rfl

@[simp] theorem events_interrupt (tr : List (Act Reply)) : events (.interrupt :: tr) = events tr :=
  rfl

theorem mem_events_iff {tr : List (Act Reply)} {e : Event Reply} : e ∈ events tr ↔ .did e ∈ tr := by
  simp only [events, List.mem_filterMap]
  constructor
  · rintro ⟨a, ha, eq⟩
    cases a with
    | did e' => cases eq; exact ha
    | interrupt => cases eq
  · exact fun h => ⟨_, h, rfl⟩

theorem events_eq_cons {tr : List (Act Reply)} {e : Event Reply} {evs : List (Event Reply)}
    (h : events tr = e :: evs) :
    ∃ t u, tr = t ++ .did e :: u ∧ events t = [] ∧ events u = evs := by
  induction tr with
  | nil => cases h
  | cons a tr ih =>
    cases a with
    | did e' => cases h; exact ⟨[], tr, rfl, rfl, rfl⟩
    | interrupt =>
      obtain ⟨t, u, rfl, quiet, rest⟩ := ih h
      exact ⟨.interrupt :: t, u, rfl, quiet, rest⟩

/-- Every step is allowed. -/
def Guard.free : Guard Call Reply W := fun _ _ _ _ => True

inductive Step (env : Surroundings Call Reply W) (body : σ → Prog Call Reply (Turn σ α))
    (ok : Guard Call Reply W) : Config Call Reply W σ α → Config Call Reply W σ α → Prop
  | reply {c : Call} {next : Reply c → Prog Call Reply (Turn σ α)} {w w' : W}
      {tr : List (Act Reply)} {r : Reply c} (served : env.serve w c r w')
      (met : ok (some c) w tr (.did ⟨c, r⟩)) :
      Step env body ok ⟨.call c next, w, tr⟩ ⟨next r, w', tr ++ [.did ⟨c, r⟩]⟩
  | interrupt {p : Prog Call Reply (Turn σ α)} {w : W} {tr : List (Act Reply)}
      (met : ok p.pending w tr .interrupt) :
      Step env body ok ⟨p, w, tr⟩ ⟨p, env.interrupt w, tr ++ [.interrupt]⟩
  | turn {s : σ} {w : W} {tr : List (Act Reply)} :
      Step env body ok ⟨.done (.again s), w, tr⟩ ⟨body s, w, tr⟩

abbrev Run (env : Surroundings Call Reply W) (body : σ → Prog Call Reply (Turn σ α))
    (ok : Guard Call Reply W) := Relation.ReflTransGen (Step env body ok)

/-- A reply the surroundings can give, in some state and as the guard lets them. -/
def Answered (env : Surroundings Call Reply W) (ok : Guard Call Reply W) (e : Event Reply) : Prop :=
  ∃ w tr w', env.serve w e.call e.reply w' ∧ ok (some e.call) w tr (.did e)

section Runs
variable {env : Surroundings Call Reply W} {body : σ → Prog Call Reply (Turn σ α)}
  {ok ok' : Guard Call Reply W}

theorem Step.mono (weaker : ∀ c w tr a, ok c w tr a → ok' c w tr a)
    {x y : Config Call Reply W σ α} (h : Step env body ok x y) : Step env body ok' x y := by
  cases h with
  | reply served met => exact .reply served (weaker _ _ _ _ met)
  | interrupt met => exact .interrupt (weaker _ _ _ _ met)
  | turn => exact .turn

theorem Run.mono (weaker : ∀ c w tr a, ok c w tr a → ok' c w tr a)
    {x y : Config Call Reply W σ α} (h : Run env body ok x y) : Run env body ok' x y :=
  Relation.ReflTransGen.mono (fun _ _ => Step.mono weaker) _ _ h

/-- A run only adds to the trace. -/
theorem Run.trace_prefix {x y : Config Call Reply W σ α} (h : Run env body ok x y) :
    x.trace <+: y.trace := by
  induction h with
  | refl => exact List.prefix_refl _
  | tail _ step ih =>
    refine ih.trans ?_
    cases step with
    | reply => exact List.prefix_append _ _
    | interrupt => exact List.prefix_append _ _
    | turn => exact List.prefix_refl _

/-- What every step preserves, every run preserves. -/
theorem Run.preserves {P : Config Call Reply W σ α → Prop} {x y : Config Call Reply W σ α}
    (h : Run env body ok x y) (step : ∀ a b, Step env body ok a b → P a → P b)
    (hx : P x) : P y := by
  induction h with
  | refl => exact hx
  | tail _ s ih => exact step _ _ s ih

/-- Before each call of the trace the process waited in it. -/
theorem Run.waited {x y : Config Call Reply W σ α} (run : Run env body ok x y)
    {t u : List (Act Reply)} {e : Event Reply} (split : y.trace = t ++ .did e :: u)
    (later : x.trace.length ≤ t.length) :
    ∃ z next w', Run env body ok x z ∧ z.control = .call e.call next ∧ z.trace = t ∧
      env.serve z.world e.call e.reply w' ∧ ok (some e.call) z.world t (.did e) := by
  induction run generalizing u with
  | refl =>
    rw [split, List.length_append, List.length_cons] at later
    omega
  | tail run step ih =>
    cases step with
    | @reply c next w w' tr r served met =>
      rcases split_concat split with ⟨rfl, last⟩ | ⟨u', earlier⟩
      · cases last
        exact ⟨_, next, w', run, rfl, rfl, served, met⟩
      · exact ih earlier
    | interrupt met =>
      rcases split_concat split with ⟨_, last⟩ | ⟨u', earlier⟩
      · cases last
      · exact ih earlier
    | turn => exact ih split

/-- A run comes by every trace on its way. -/
theorem Run.reached {x y : Config Call Reply W σ α} (run : Run env body ok x y)
    {t u : List (Act Reply)} (split : y.trace = t ++ u) (later : x.trace.length ≤ t.length) :
    ∃ z, Run env body ok x z ∧ z.trace = t := by
  induction run generalizing u with
  | refl =>
    have same : u = [] := by
      have length := congrArg List.length split
      rw [List.length_append] at length
      exact List.eq_nil_of_length_eq_zero (by omega)
    exact ⟨x, .refl, by rw [split, same, List.append_nil]⟩
  | @tail b c run step ih =>
    rcases List.eq_nil_or_concat u with rfl | ⟨u, a, rfl⟩
    · exact ⟨c, run.tail step, by rw [split, List.append_nil]⟩
    · rw [List.concat_eq_append, ← List.append_assoc] at split
      cases step with
      | reply => exact ih (List.append_inj_left' split rfl)
      | interrupt => exact ih (List.append_inj_left' split rfl)
      | turn => exact ih (split.trans (List.append_assoc _ _ _))

theorem Run.answered {x y : Config Call Reply W σ α} (run : Run env body ok x y)
    (fresh : x.trace = []) {e : Event Reply} (h : e ∈ events y.trace) : Answered env ok e := by
  obtain ⟨t, u, split⟩ := List.append_of_mem (mem_events_iff.1 h)
  obtain ⟨z, next, w', _, _, _, served, met⟩ := run.waited split (by simp [fresh])
  exact ⟨z.world, t, w', served, met⟩

end Runs

/-- `p` can be carried on from here so that `I` holds whenever it waits in a
call and `Q` when it answers. -/
inductive Safe (env : Surroundings Call Reply W) (ok : Guard Call Reply W)
    (I : Call → W → List (Act Reply) → Prop) (Q : α → W → List (Act Reply) → Prop) :
    Prog Call Reply α → W → List (Act Reply) → Prop
  | done {a : α} {w : W} {tr : List (Act Reply)} (answer : Q a w tr) :
      Safe env ok I Q (.done a) w tr
  | call {c : Call} {next : Reply c → Prog Call Reply α} {w : W} {tr : List (Act Reply)}
      (P : W → List (Act Reply) → Prop) (now : P w tr)
      (stable : ∀ w tr, P w tr → ok (some c) w tr .interrupt →
        P (env.interrupt w) (tr ++ [.interrupt]))
      (sound : ∀ w tr, P w tr → I c w tr)
      (onward : ∀ w tr r w', P w tr → env.serve w c r w' → ok (some c) w tr (.did ⟨c, r⟩) →
        Safe env ok I Q (next r) w' (tr ++ [.did ⟨c, r⟩])) :
      Safe env ok I Q (.call c next) w tr

section Outlines
variable {env : Surroundings Call Reply W} {ok : Guard Call Reply W}
  {I J : Call → W → List (Act Reply) → Prop}

theorem Safe.bind {Q : α → W → List (Act Reply) → Prop} {R : β → W → List (Act Reply) → Prop}
    {p : Prog Call Reply α} {f : α → Prog Call Reply β} {w : W} {tr : List (Act Reply)}
    (h : Safe env ok I Q p w tr) (rest : ∀ a w tr, Q a w tr → Safe env ok I R (f a) w tr) :
    Safe env ok I R (p >>= f) w tr := by
  induction h with
  | done answer => exact rest _ _ _ answer
  | call P now stable sound _ ih => exact .call P now stable sound ih

theorem Safe.weaken {Q R : α → W → List (Act Reply) → Prop} {p : Prog Call Reply α} {w : W}
    {tr : List (Act Reply)} (h : Safe env ok I Q p w tr) (hI : ∀ c w tr, I c w tr → J c w tr)
    (hQ : ∀ a w tr, Q a w tr → R a w tr) : Safe env ok J R p w tr := by
  induction h with
  | done answer => exact .done (hQ _ _ _ answer)
  | call P now stable sound _ ih =>
    exact .call P now stable (fun w tr hP => hI _ _ _ (sound w tr hP)) ih

/-- Two outlines of one program hold together. -/
theorem Safe.and {Q R : α → W → List (Act Reply) → Prop} {p : Prog Call Reply α} {w : W}
    {tr : List (Act Reply)} (h : Safe env ok I Q p w tr) (k : Safe env ok J R p w tr) :
    Safe env ok (fun c w tr => I c w tr ∧ J c w tr) (fun a w tr => Q a w tr ∧ R a w tr) p w tr := by
  induction h with
  | done answer => cases k with | done answer' => exact .done ⟨answer, answer'⟩
  | call P now stable sound _ ih =>
    cases k with
    | call P' now' stable' sound' onward' =>
      refine .call (fun w tr => P w tr ∧ P' w tr) ⟨now, now'⟩ ?_ ?_ ?_
      · exact fun w tr hP met => ⟨stable w tr hP.1 met, stable' w tr hP.2 met⟩
      · exact fun w tr hP => ⟨sound w tr hP.1, sound' w tr hP.2⟩
      · exact fun w tr r w' hP served met =>
          ih w tr r w' hP.1 served met (onward' w tr r w' hP.2 served met)

/-- An assertion that every call of the program preserves, and every interrupt,
holds from start to end. -/
theorem Safe.of_only {K : Call → Prop} {R : α → Prop} {P : W → List (Act Reply) → Prop}
    {p : Prog Call Reply α} (only : p.Only K R)
    (stable : ∀ c w tr, K c → P w tr → ok (some c) w tr .interrupt →
      P (env.interrupt w) (tr ++ [.interrupt]))
    (step : ∀ c w tr r w', K c → P w tr → env.serve w c r w' → ok (some c) w tr (.did ⟨c, r⟩) →
      P w' (tr ++ [.did ⟨c, r⟩]))
    {w : W} {tr : List (Act Reply)} (now : P w tr) :
    Safe env ok (fun c w tr => K c ∧ P w tr) (fun a w tr => R a ∧ P w tr) p w tr := by
  induction p generalizing w tr with
  | done a => exact .done ⟨only, now⟩
  | call c next ih =>
    exact .call P now (fun w tr => stable c w tr only.1) (fun _ _ hP => ⟨only.1, hP⟩)
      fun w tr r w' hP served met => ih r (only.2 r) (step c w tr r w' only.1 hP served met)

/-- Whatever comes, what was added to the trace at the end is a run of the program. -/
theorem safe_follows (p : Prog Call Reply α) (w : W) (tr : List (Act Reply)) :
    Safe env ok (fun _ _ _ => True) (fun a _ tr' => ∃ u, tr' = tr ++ u ∧ Follows p (events u) a ∧
      ∀ e ∈ events u, Answered env ok e) p w tr := by
  induction p generalizing w tr with
  | done a => exact .done ⟨[], (List.append_nil tr).symm, .done a, by simp⟩
  | call c next ih =>
    refine .call (fun _ tr' => ∃ u, tr' = tr ++ u ∧ events u = []) ⟨[], by simp⟩ ?_ ?_ ?_
    · rintro w tr' ⟨u, rfl, quiet⟩ met
      exact ⟨u ++ [.interrupt], by simp, by simp [quiet]⟩
    · exact fun _ _ _ => trivial
    · rintro w tr' r w' ⟨u, rfl, quiet⟩ served met
      refine (ih r w' _).weaken (fun _ _ _ h => h) ?_
      rintro a _ _ ⟨v, rfl, follows, answered⟩
      have calls : events (u ++ [.did ⟨c, r⟩] ++ v) = ⟨c, r⟩ :: events v := by simp [quiet]
      refine ⟨u ++ [.did ⟨c, r⟩] ++ v, by simp, ?_, ?_⟩
      · rw [calls]
        exact .call follows
      · rw [calls]
        intro e he
        rcases List.mem_cons.1 he with rfl | he
        · exact ⟨w, _, w', served, met⟩
        · exact answered e he

/-- What the outline says of a state: the call's assertion while the process
waits, the invariant between two turns, the postcondition once it is over. -/
def Between (Inv : σ → W → List (Act Reply) → Prop) (Post : α → W → List (Act Reply) → Prop) :
    Turn σ α → W → List (Act Reply) → Prop
  | .again s => Inv s
  | .exit a => Post a

def Meets (I : Call → W → List (Act Reply) → Prop) (Inv : σ → W → List (Act Reply) → Prop)
    (Post : α → W → List (Act Reply) → Prop) (x : Config Call Reply W σ α) : Prop :=
  match x.control with
  | .call c _ => I c x.world x.trace
  | .done t => Between Inv Post t x.world x.trace

/-- **The loop rule.** A body that is safe from the invariant back to the
invariant keeps every run from a safe start within its outline. -/
theorem run_meets {body : σ → Prog Call Reply (Turn σ α)}
    {Inv : σ → W → List (Act Reply) → Prop} {Post : α → W → List (Act Reply) → Prop}
    (turns : ∀ s w tr, Inv s w tr → Safe env ok I (Between Inv Post) (body s) w tr)
    (quiet : ∀ t w tr, Between Inv Post t w tr → ok none w tr .interrupt →
      Between Inv Post t (env.interrupt w) (tr ++ [.interrupt]))
    {x y : Config Call Reply W σ α} (run : Run env body ok x y)
    (start : Safe env ok I (Between Inv Post) x.control x.world x.trace) : Meets I Inv Post y := by
  have safe : Safe env ok I (Between Inv Post) y.control y.world y.trace := by
    refine run.preserves (P := fun x => Safe env ok I (Between Inv Post) x.control x.world x.trace)
      ?_ start
    intro a b step h
    cases step with
    | reply served met =>
      cases h with | call P now _ _ onward => exact onward _ _ _ _ now served met
    | interrupt met =>
      rename_i p _ _
      cases p with
      | done t => cases h with | done answer => exact .done (quiet _ _ _ answer met)
      | call c next =>
        cases h with
        | call P now stable sound onward => exact .call P (stable _ _ now met) stable sound onward
    | turn => cases h with | done answer => exact turns _ _ _ answer
  unfold Meets
  generalize y.control = p at safe
  cases safe with
  | done answer => exact answer
  | call P now _ sound _ => exact sound _ _ now

end Outlines

section Drive
variable {env : Surroundings Call Reply W} {body : σ → Prog Call Reply (Turn σ α)}

/-- The run against surroundings that answer by a function, with no interrupt. -/
def drive (answer : W → (c : Call) → Reply c × W) :
    Prog Call Reply β → W → List (Act Reply) → β × W × List (Act Reply)
  | .done b, w, tr => (b, w, tr)
  | .call c next, w, tr =>
    drive answer (next (answer w c).1) (answer w c).2 (tr ++ [.did ⟨c, (answer w c).1⟩])

theorem drive_bind (answer : W → (c : Call) → Reply c × W) {γ : Type} (p : Prog Call Reply β)
    (f : β → Prog Call Reply γ) (w : W) (tr : List (Act Reply)) :
    drive answer (p >>= f) w tr =
      drive answer (f (drive answer p w tr).1) (drive answer p w tr).2.1
        (drive answer p w tr).2.2 := by
  induction p generalizing w tr with
  | done b => rfl
  | call c next ih => exact ih _ _ _

/-- What was in the trace before stays in front. -/
theorem drive_append (answer : W → (c : Call) → Reply c × W) (p : Prog Call Reply β) (w : W)
    (tr : List (Act Reply)) : (drive answer p w tr).2.2 = tr ++ (drive answer p w []).2.2 := by
  induction p generalizing w tr with
  | done b => exact (List.append_nil tr).symm
  | call c next ih =>
    simp only [drive]
    rw [ih _ _ (tr ++ _), ih _ _ ([] ++ _), List.nil_append, List.append_assoc]

theorem drive_first (answer : W → (c : Call) → Reply c × W) {γ : Type} (p : Prog Call Reply β)
    (f : β → Prog Call Reply γ) (w : W) (tr : List (Act Reply)) :
    (drive answer p w tr).2.2 <+: (drive answer (p >>= f) w tr).2.2 := by
  rw [drive_bind, drive_append answer (f _)]
  exact List.prefix_append _ _

/-- Driving is a run, under every guard its answers meet. -/
theorem run_drive {ok : Guard Call Reply W} {answer : W → (c : Call) → Reply c × W}
    (allowed : ∀ w c, env.serve w c (answer w c).1 (answer w c).2)
    (met : ∀ w c tr, ok (some c) w tr (.did ⟨c, (answer w c).1⟩))
    (p : Prog Call Reply (Turn σ α)) (w : W) (tr : List (Act Reply)) :
    Run env body ok ⟨p, w, tr⟩
      ⟨.done (drive answer p w tr).1, (drive answer p w tr).2.1, (drive answer p w tr).2.2⟩ := by
  induction p generalizing w tr with
  | done b => exact .refl
  | call c next ih => exact .head (.reply (allowed w c) (met w c tr)) (ih _ _ _)

/-- What driving adds to the trace is a run of the program. -/
theorem follows_drive (answer : W → (c : Call) → Reply c × W) (p : Prog Call Reply β) (w : W)
    (tr : List (Act Reply)) : ∃ u, (drive answer p w tr).2.2 = tr ++ u ∧
      Follows p (events u) (drive answer p w tr).1 := by
  induction p generalizing w tr with
  | done b => exact ⟨[], (List.append_nil tr).symm, .done b⟩
  | call c next ih =>
    obtain ⟨u, grown, follows⟩ :=
      ih (answer w c).1 (answer w c).2 (tr ++ [.did ⟨c, (answer w c).1⟩])
    refine ⟨.did ⟨c, (answer w c).1⟩ :: u, ?_, ?_⟩
    · rw [drive, grown, List.append_assoc, List.singleton_append]
    · exact .call follows

end Drive

end Interact
