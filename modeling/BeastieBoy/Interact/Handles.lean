import BeastieBoy.Interact.Trace
import Mathlib.Data.Option.Basic

/-!
# One handle at a time

What a trace does with handles of one kind: some events give one out, some take
one back, some need one. A program *keeps* to the kind when it holds at most one,
takes back only the one it holds, and has it at every event that needs it.
-/

namespace Interact

/-- `uses` is the handle an event needs, which the program may be missing. -/
structure HandleKind (Event H : Type) where
  acquires : Event → Option H
  releases : Event → Option H
  uses : Event → Option (Option H)

variable {Event H : Type}

/-- Behind the trace the program holds `held`. -/
inductive Keeps (kind : HandleKind Event H) : List Event → Option H → Prop
  | start : Keeps kind [] none
  | acquire {tr : List Event} {e : Event} {x : H} (before : Keeps kind tr none)
      (acquired : kind.acquires e = some x) (fresh : ∀ e' ∈ tr, kind.acquires e' ≠ some x)
      (released : kind.releases e = none) (used : kind.uses e = none) :
        Keeps kind (tr ++ [e]) (some x)
  | release {tr : List Event} {e : Event} {x : H} (before : Keeps kind tr (some x))
      (acquired : kind.acquires e = none) (released : kind.releases e = some x)
      (used : kind.uses e = none) : Keeps kind (tr ++ [e]) none
  | use {tr : List Event} {e : Event} {x : H} (before : Keeps kind tr (some x))
      (acquired : kind.acquires e = none) (released : kind.releases e = none)
      (used : kind.uses e = some (some x)) : Keeps kind (tr ++ [e]) (some x)
  | other {tr : List Event} {e : Event} {held : Option H} (before : Keeps kind tr held)
      (acquired : kind.acquires e = none) (released : kind.releases e = none)
      (used : kind.uses e = none) : Keeps kind (tr ++ [e]) held

namespace Keeps
variable [DecidableEq H] {kind : HandleKind Event H} {tr : List Event} {held : Option H}

/-- How often `x` was given out. -/
def given (kind : HandleKind Event H) (x : H) (tr : List Event) : Nat :=
  tr.countP fun e => kind.acquires e = some x

/-- How often `x` was taken back. -/
def returned (kind : HandleKind Event H) (x : H) (tr : List Event) : Nat :=
  tr.countP fun e => kind.releases e = some x

theorem given_concat (x : H) (tr : List Event) (e : Event) :
    given kind x (tr ++ [e]) = given kind x tr + if kind.acquires e = some x then 1 else 0 := by
  simp [given, List.countP_append, List.countP_singleton]

theorem returned_concat (x : H) (tr : List Event) (e : Event) :
    returned kind x (tr ++ [e]) =
      returned kind x tr + if kind.releases e = some x then 1 else 0 := by
  simp [returned, List.countP_append, List.countP_singleton]

/-- What was given out was taken back or is held. -/
theorem accounted (h : Keeps kind tr held) (x : H) :
    given kind x tr = returned kind x tr + if held = some x then 1 else 0 := by
  induction h with
  | start => rfl
  | acquire _ acquired _ released _ ih =>
    simp [given_concat, returned_concat, acquired, released, ih]
  | release _ acquired released _ ih => simp [given_concat, returned_concat, acquired, released, ih]
  | use _ acquired released _ ih => simp [given_concat, returned_concat, acquired, released, ih]
  | other _ acquired released _ ih => simp [given_concat, returned_concat, acquired, released, ih]

theorem given_le_one (h : Keeps kind tr held) (x : H) : given kind x tr ≤ 1 := by
  induction h with
  | start => exact Nat.zero_le 1
  | @acquire tr e y _ acquired fresh _ _ ih =>
    rw [given_concat, acquired]
    split
    · rename_i same
      have none_yet : given kind x tr = 0 := by
        rw [given, List.countP_eq_zero]
        intro e' he'
        simpa [← Option.some.inj same] using fresh e' he'
      omega
    · exact ih
  | release _ acquired _ _ ih => simpa [given_concat, acquired] using ih
  | use _ acquired _ _ ih => simpa [given_concat, acquired] using ih
  | other _ acquired _ _ ih => simpa [given_concat, acquired] using ih

/-- A handle that was given out was taken back once, or is held and was not
taken back. -/
theorem returned_of_given (h : Keeps kind tr held) {x : H}
    (there : ∃ e ∈ tr, kind.acquires e = some x) :
    returned kind x tr = if held = some x then 0 else 1 := by
  have positive : 0 < given kind x tr := by
    obtain ⟨e, he, acquired⟩ := there
    exact List.countP_pos_iff.2 ⟨e, he, by simpa using acquired⟩
  have once := h.given_le_one x
  have balance := h.accounted x
  split at balance <;> rename_i holds <;> simp only [holds, ↓reduceIte] <;> omega

theorem given_of_held {x : H} (h : Keeps kind tr (some x)) :
    (∃ e ∈ tr, kind.acquires e = some x) ∧ ∀ e ∈ tr, kind.releases e ≠ some x := by
  have once := h.given_le_one x
  have balance := h.accounted x
  rw [if_pos rfl] at balance
  constructor
  · have positive : 0 < given kind x tr := by omega
    obtain ⟨e, he, acquired⟩ := List.countP_pos_iff.1 positive
    exact ⟨e, he, by simpa using acquired⟩
  · have none_back : returned kind x tr = 0 := by omega
    intro e he
    simpa using List.countP_eq_zero.1 none_back e he

omit [DecidableEq H] in
/-- Every event that needs a handle comes while it is held. -/
theorem used (h : Keeps kind tr held) {before after : List Event} {e : Event} {o : Option H}
    (split_up : tr = before ++ e :: after) (needs : kind.uses e = some o) :
    ∃ x, o = some x ∧ Keeps kind before (some x) := by
  induction h generalizing after with
  | start => simp at split_up
  | acquire _ _ _ _ unused ih =>
    rcases split_concat split_up with ⟨_, rfl⟩ | ⟨_, earlier⟩
    · rw [unused] at needs
      cases needs
    · exact ih earlier
  | release _ _ _ unused ih =>
    rcases split_concat split_up with ⟨_, rfl⟩ | ⟨_, earlier⟩
    · rw [unused] at needs
      cases needs
    · exact ih earlier
  | use now _ _ used ih =>
    rcases split_concat split_up with ⟨rfl, rfl⟩ | ⟨_, earlier⟩
    · rw [used] at needs
      exact ⟨_, (Option.some.inj needs).symm, now⟩
    · exact ih earlier
  | other _ _ _ unused ih =>
    rcases split_concat split_up with ⟨_, rfl⟩ | ⟨_, earlier⟩
    · rw [unused] at needs
      cases needs
    · exact ih earlier

end Keeps

end Interact
