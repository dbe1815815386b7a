import BeastieBoy.Interact.Prog
import Mathlib.Logic.Function.Basic

/-!
# Programs side by side

Several programs that call one server, in any order of their calls (`Pool`), and
the same programs one after the other (`InTurn`). An interleaving gives each
program a run of its own and the server a run with all of their calls.

Runs against a server that computes its replies are computed too (`play`,
`playPool`).
-/

namespace Interact

variable {Call : Type} {Reply : Call → Type} {S T α ι : Type}

section Pool
variable [DecidableEq ι]

/-- The programs and the server's state before, the calls with who made them,
and the programs and the state behind them. -/
inductive Pool (srv : Server Call Reply S) :
    (ι → Prog Call Reply α) → S → List (ι × Event Reply) → (ι → Prog Call Reply α) → S → Prop
  | idle (ps : ι → Prog Call Reply α) (s : S) : Pool srv ps s [] ps s
  | turn {ps ps' : ι → Prog Call Reply α} {s s' s'' : S} {tr : List (ι × Event Reply)} (i : ι)
      {c : Call} {next : Reply c → Prog Call Reply α} {r : Reply c} (asks : ps i = .call c next)
      (step : srv s c r s') (rest : Pool srv (Function.update ps i (next r)) s' tr ps' s'') :
      Pool srv ps s ((i, ⟨c, r⟩) :: tr) ps' s''

/-- One program's calls. -/
def own (i : ι) (tr : List (ι × Event Reply)) : List (Event Reply) :=
  tr.filterMap fun x => if x.1 = i then some x.2 else none

variable {srv : Server Call Reply S} {ps ps' : ι → Prog Call Reply α} {s s' : S}
  {tr : List (ι × Event Reply)}

theorem mem_own {i : ι} {e : Event Reply} : e ∈ own i tr ↔ (i, e) ∈ tr := by
  simp only [own, List.mem_filterMap, Option.ite_none_right_eq_some, Option.some.injEq]
  constructor
  · rintro ⟨⟨j, e'⟩, hx, rfl, rfl⟩
    exact hx
  · intro h
    exact ⟨(i, e), h, rfl, rfl⟩

theorem Pool.serves (h : Pool srv ps s tr ps' s') : Serves srv s (tr.map Prod.snd) s' := by
  induction h with
  | idle ps s => exact .nil s
  | turn i asks step rest ih => exact .cons step ih

theorem Pool.follows (h : Pool srv ps s tr ps' s') {i : ι} {a : α} (finished : ps' i = .done a) :
    Follows (ps i) (own i tr) a := by
  induction h with
  | idle ps s =>
    rw [finished]
    exact .done a
  | @turn ps ps' s s' s'' tr j c next r asks step rest ih =>
    have later := ih finished
    by_cases same : j = i
    · subst same
      rw [Function.update_self] at later
      have head : own j ((j, ⟨c, r⟩) :: tr) = ⟨c, r⟩ :: own j tr := by simp [own]
      rw [head, asks]
      exact .call later
    · rw [Function.update_of_ne (Ne.symm same)] at later
      have skip : own i ((j, ⟨c, r⟩) :: tr) = own i tr := by simp [own, same]
      rw [skip]
      exact later

end Pool

/-! ## One after the other -/

/-- The calls of the programs `order` lists, one program after the other. All of
their events satisfy `ok`. -/
inductive InTurn (srv : Server Call Reply S) (ok : Event Reply → Prop)
    (ps : ι → Prog Call Reply α) :
    List ι → S → S → Prop
  | nil (s : S) : InTurn srv ok ps [] s s
  | cons {i : ι} {order : List ι} {s s' s'' : S} {tr : List (Event Reply)} {a : α}
      (first : Exec srv (ps i) s tr s' a) (all : ∀ e ∈ tr, ok e)
      (rest : InTurn srv ok ps order s' s'') : InTurn srv ok ps (i :: order) s s''

/-- Programs that can each run within a budget can run one after the other. -/
theorem exists_inTurn {srv : Server Call Reply S} {ok : Event Reply → Prop}
    {ps : ι → Prog Call Reply α} {Budget : Nat → S → Prop}
    (one : ∀ i n s, Budget (n + 1) s →
      ∃ tr s' a, Exec srv (ps i) s tr s' a ∧ (∀ e ∈ tr, ok e) ∧ Budget n s') (order : List ι)
    {s : S} (enough : Budget order.length s) : ∃ s', InTurn srv ok ps order s s' := by
  induction order generalizing s with
  | nil => exact ⟨s, .nil s⟩
  | cons i order ih =>
    obtain ⟨tr, s₁, a, first, all, left⟩ := one i order.length s enough
    obtain ⟨s', rest⟩ := ih left
    exact ⟨s', .cons first all rest⟩


/-! ## Computed runs -/

/-- The run a server that computes its replies gives, if it refuses none. -/
def play (serve : T → (c : Call) → Option (Reply c × T)) :
    Prog Call Reply α → T → Option (List (Event Reply) × T × α)
  | .done a, t => some ([], t, a)
  | .call c next, t =>
    match serve t c with
    | none => none
    | some (r, t') => (play serve (next r) t').map fun x => (⟨c, r⟩ :: x.1, x.2)

/-- The same for programs side by side, with the order of their calls. -/
def playPool [DecidableEq ι] (serve : T → (c : Call) → Option (Reply c × T)) :
    List ι → (ι → Prog Call Reply α) → T →
    Option (List (ι × Event Reply) × (ι → Prog Call Reply α) × T)
  | [], ps, t => some ([], ps, t)
  | i :: schedule, ps, t =>
    match ps i with
    | .done _ => none
    | .call c next =>
      match serve t c with
      | none => none
      | some (r, t') =>
        (playPool serve schedule (Function.update ps i (next r)) t').map fun x =>
          ((i, ⟨c, r⟩) :: x.1, x.2)

section Computed
variable {srv : Server Call Reply S} {shown : T → S} {serve : T → (c : Call) → Option (Reply c × T)}
  (sound : ∀ t c r t', serve t c = some (r, t') → srv (shown t) c r (shown t'))
include sound

theorem exec_play {p : Prog Call Reply α} {t t' : T} {tr : List (Event Reply)} {a : α}
    (h : play serve p t = some (tr, t', a)) : Exec srv p (shown t) tr (shown t') a := by
  induction p generalizing t tr with
  | done b =>
    simp only [play, Option.some.injEq, Prod.mk.injEq] at h
    obtain ⟨rfl, rfl, rfl⟩ := h
    exact ⟨.done b, .nil _⟩
  | call c next ih =>
    simp only [play] at h
    split at h
    · cases h
    · rename_i r t₁ served
      obtain ⟨⟨tr₁, t₂, b⟩, later, made⟩ := Option.map_eq_some_iff.1 h
      simp only [Prod.mk.injEq] at made
      obtain ⟨rfl, rfl, rfl⟩ := made
      have run := ih r later
      exact ⟨.call run.follows, .cons (sound _ _ _ _ served) run.serves⟩

theorem exec_get {p : Prog Call Reply α} {t : T} (h : (play serve p t).isSome) :
    Exec srv p (shown t) ((play serve p t).get h).1 (shown ((play serve p t).get h).2.1)
      ((play serve p t).get h).2.2 := exec_play sound (Option.some_get h).symm

theorem pool_playPool [DecidableEq ι] {schedule : List ι} {ps ps' : ι → Prog Call Reply α}
    {t t' : T}
    {tr : List (ι × Event Reply)} (h : playPool serve schedule ps t = some (tr, ps', t')) :
    Pool srv ps (shown t) tr ps' (shown t') := by
  induction schedule generalizing ps t tr with
  | nil =>
    simp only [playPool, Option.some.injEq, Prod.mk.injEq] at h
    obtain ⟨rfl, rfl, rfl⟩ := h
    exact .idle _ _
  | cons i schedule ih =>
    simp only [playPool] at h
    split at h
    · cases h
    · rename_i c next asks
      split at h
      · cases h
      · rename_i r t₁ served
        obtain ⟨⟨tr₁, ps₁, t₂⟩, later, made⟩ := Option.map_eq_some_iff.1 h
        simp only [Prod.mk.injEq] at made
        obtain ⟨rfl, rfl, rfl⟩ := made
        exact .turn i asks (sound _ _ _ _ served) (ih later)

end Computed

end Interact
