import Mathlib.Algebra.Order.BigOperators.Group.List
import Mathlib.Algebra.BigOperators.Group.List.Basic
import Mathlib.Tactic.Ring

/-!
# Draining levels round by round

A row of vessels, each with a level and a floor. A round takes one unit from
every vessel above its floor, left to right, until the budget is used up;
rounds are repeated until the budget is gone or no vessel is above its floor.

`drain_sum` accounts for every unit, `drain_exhausted` says what a leftover
budget means, `drain_bounds` where each level ends, `drain_mono` that a larger
budget leaves no level higher, `drain_fair` how evenly the units are taken.
-/

namespace Drain

@[ext]
structure Vessel where
  level : Nat
  floor : Nat
  deriving DecidableEq

/-- Where a vessel can be drained down to. -/
def Vessel.bottom (v : Vessel) : Nat := min v.level v.floor

def total (vs : List Vessel) : Nat := (vs.map Vessel.level).sum

/-- One round: the vessels after it and the budget left. -/
def round : List Vessel → Nat → List Vessel × Nat
  | [], k => ([], k)
  | v :: vs, 0 => (v :: vs, 0)
  | v :: vs, k + 1 =>
    if v.floor < v.level then
      ({ v with level := v.level - 1 } :: (round vs k).1, (round vs k).2)
    else (v :: (round vs (k + 1)).1, (round vs (k + 1)).2)

theorem round_le (vs : List Vessel) (k : Nat) : (round vs k).2 ≤ k := by
  induction vs generalizing k with
  | nil => exact Nat.le_refl k
  | cons v vs ih =>
    cases k with
    | zero => exact Nat.le_refl 0
    | succ k =>
      simp only [round]
      split
      · exact Nat.le_trans (ih k) (Nat.le_succ k)
      · exact ih (k + 1)

/-- A round that takes nothing from a positive budget found nothing to take. -/
theorem round_stuck {vs : List Vessel} {k : Nat} (hk : 0 < k) :
    (round vs k).2 = k ↔ ∀ v ∈ vs, v.level ≤ v.floor := by
  obtain ⟨k, rfl⟩ := Nat.exists_eq_add_of_le' hk
  induction vs with
  | nil => simp [round]
  | cons v vs ih =>
    simp only [round, List.forall_mem_cons]
    split
    · rename_i above
      have := round_le vs k
      constructor <;> intro h <;> omega
    · rename_i low
      exact ⟨fun h => ⟨by omega, ih.1 h⟩, fun h => ih.2 h.2⟩

theorem round_eq_self {vs : List Vessel} (low : ∀ v ∈ vs, v.level ≤ v.floor) (k : Nat) :
    round vs k = (vs, k) := by
  induction vs with
  | nil => rfl
  | cons v vs ih =>
    cases k with
    | zero => rfl
    | succ k =>
      have hv := low v List.mem_cons_self
      have hvs := ih fun u hu => low u (List.mem_cons_of_mem v hu)
      have not_above : ¬ v.floor < v.level := by omega
      simp only [round, not_above, ↓reduceIte, hvs]

/-- What a round does to each vessel: the floor stays, and at most one unit
goes, from above the floor only. -/
def Lowered (v v' : Vessel) : Prop :=
  v'.floor = v.floor ∧ (v' = v ∨ v.floor < v.level ∧ v'.level + 1 = v.level)

theorem round_lowered (vs : List Vessel) (k : Nat) :
    List.Forall₂ Lowered vs (round vs k).1 := by
  have same (vs : List Vessel) : List.Forall₂ Lowered vs vs :=
    List.forall₂_same.2 fun v _ => ⟨rfl, Or.inl rfl⟩
  induction vs generalizing k with
  | nil => exact .nil
  | cons v vs ih =>
    cases k with
    | zero => exact same _
    | succ k =>
      simp only [round]
      split
      · rename_i above
        exact .cons ⟨rfl, Or.inr ⟨above, by simp only; omega⟩⟩ (ih k)
      · exact .cons ⟨rfl, Or.inl rfl⟩ (ih (k + 1))

theorem round_sum (vs : List Vessel) (k : Nat) :
    total (round vs k).1 + k = total vs + (round vs k).2 := by
  induction vs generalizing k with
  | nil => rfl
  | cons v vs ih =>
    cases k with
    | zero => rfl
    | succ k =>
      simp only [round]
      split
      · have := ih k
        simp only [total, List.map_cons, List.sum_cons] at this ⊢
        omega
      · have := ih (k + 1)
        simp only [total, List.map_cons, List.sum_cons] at this ⊢
        omega

/-- Rounds until one takes nothing. -/
def drain (vs : List Vessel) (k : Nat) : List Vessel × Nat :=
  if (round vs k).2 < k then drain (round vs k).1 (round vs k).2 else (vs, k)
termination_by k

theorem drain_of_lt {vs : List Vessel} {k : Nat} (h : (round vs k).2 < k) :
    drain vs k = drain (round vs k).1 (round vs k).2 := by
  rw [drain, if_pos h]

theorem drain_of_not_lt {vs : List Vessel} {k : Nat} (h : ¬ (round vs k).2 < k) :
    drain vs k = (vs, k) := by
  rw [drain, if_neg h]

theorem drain_eq_self {vs : List Vessel} (low : ∀ v ∈ vs, v.level ≤ v.floor) (k : Nat) :
    drain vs k = (vs, k) :=
  drain_of_not_lt (by rw [round_eq_self low]; exact Nat.lt_irrefl k)

theorem drain_zero (vs : List Vessel) : drain vs 0 = (vs, 0) := drain_of_not_lt (Nat.not_lt_zero _)

/-- The induction every fact about `drain` goes by: what each round preserves
holds at the end. -/
theorem drain_induction {P : List Vessel → Nat → Prop} {vs : List Vessel} {k : Nat} (start : P vs k)
    (step : ∀ vs k, P vs k → P (round vs k).1 (round vs k).2) :
    P (drain vs k).1 (drain vs k).2 := by
  induction k using Nat.strongRecOn generalizing vs with
  | ind k ih =>
    by_cases h : (round vs k).2 < k
    · rw [drain_of_lt h]
      exact ih _ h (step vs k start)
    · rwa [drain_of_not_lt h]

/-- Every unit of the budget is taken from a level or left over. -/
theorem drain_sum (vs : List Vessel) (k : Nat) :
    total (drain vs k).1 + k = total vs + (drain vs k).2 := by
  refine drain_induction (P := fun us b => total us + k = total vs + b) rfl ?_
  intro us b h
  have := round_sum us b
  omega

theorem drain_le (vs : List Vessel) (k : Nat) : (drain vs k).2 ≤ k :=
  drain_induction (P := fun _ b => b ≤ k) (Nat.le_refl k)
    fun us b h => Nat.le_trans (round_le us b) h

/-- Budget is left over only when every vessel is down to its floor. -/
theorem drain_exhausted {vs : List Vessel} {k : Nat} (left : 0 < (drain vs k).2) :
    ∀ v ∈ (drain vs k).1, v.level ≤ v.floor := by
  induction k using Nat.strongRecOn generalizing vs with
  | ind k ih =>
    by_cases h : (round vs k).2 < k
    · rw [drain_of_lt h] at left ⊢
      exact ih _ h left
    · rw [drain_of_not_lt h] at left ⊢
      have := round_le vs k
      exact (round_stuck left).1 (by simp only; omega)

/-- Floors stay, and a level ends between its bottom and where it was. -/
def Drained (v v' : Vessel) : Prop :=
  v'.floor = v.floor ∧ v.bottom ≤ v'.level ∧ v'.level ≤ v.level

theorem Drained.lowered {v v' v'' : Vessel} (h : Drained v v') (step : Lowered v' v'') :
    Drained v v'' := by
  obtain ⟨hf, hlo, hhi⟩ := h
  obtain ⟨hf', rfl | ⟨above, level⟩⟩ := step
  · exact ⟨hf, hlo, hhi⟩
  · refine ⟨hf'.trans hf, ?_, by omega⟩
    simp only [Vessel.bottom] at hlo ⊢
    omega

theorem forall₂_trans {α β γ : Type} {R : α → β → Prop} {S : β → γ → Prop} {T : α → γ → Prop}
    (hT : ∀ a b c, R a b → S b c → T a c) {xs : List α} {ys : List β} {zs : List γ}
    (h : List.Forall₂ R xs ys) (k : List.Forall₂ S ys zs) : List.Forall₂ T xs zs := by
  induction h generalizing zs with
  | nil => cases k; exact .nil
  | cons hab _ ih => cases k with | cons hbc rest => exact .cons (hT _ _ _ hab hbc) (ih rest)

theorem forall₂_and_right {α β : Type} {R : α → β → Prop} {p : β → Prop} {xs : List α} {ys : List β}
    (h : List.Forall₂ R xs ys) (hp : ∀ y ∈ ys, p y) :
    List.Forall₂ (fun x y => R x y ∧ p y) xs ys := by
  induction h with
  | nil => exact .nil
  | cons hxy _ ih =>
    obtain ⟨hd, tl⟩ := List.forall_mem_cons.1 hp
    exact .cons ⟨hxy, hd⟩ (ih tl)

theorem drain_bounds (vs : List Vessel) (k : Nat) : List.Forall₂ Drained vs (drain vs k).1 := by
  refine drain_induction (P := fun us _ => List.Forall₂ Drained vs us) ?_ ?_
  · exact List.forall₂_same.2 fun v _ => ⟨rfl, Nat.min_le_left _ _, Nat.le_refl _⟩
  · intro us b h
    refine forall₂_trans ?_ h (round_lowered us b)
    exact fun _ _ _ drained step => drained.lowered step

/-! ## A larger budget -/

/-- The levels on the right are no higher. -/
abbrev NoHigher (vs us : List Vessel) : Prop := List.Forall₂ (fun v u => u.level ≤ v.level) vs us

theorem NoHigher.refl (vs : List Vessel) : NoHigher vs vs :=
  List.forall₂_same.2 fun _ _ => Nat.le_refl _

theorem NoHigher.trans {vs us ts : List Vessel} (h : NoHigher vs us) (k : NoHigher us ts) :
    NoHigher vs ts := by
  refine forall₂_trans ?_ h k
  exact fun _ _ _ lower lower' => Nat.le_trans lower' lower

theorem round_noHigher (vs : List Vessel) (k : Nat) : NoHigher vs (round vs k).1 := by
  apply (round_lowered vs k).imp
  rintro v u ⟨_, rfl | ⟨_, lower⟩⟩
  · exact Nat.le_refl _
  · omega

theorem drain_noHigher (vs : List Vessel) (k : Nat) : NoHigher vs (drain vs k).1 :=
  (drain_bounds vs k).imp fun _ _ drained => drained.2.2

theorem round_mono (vs : List Vessel) {k k' : Nat} (more : k ≤ k') :
    NoHigher (round vs k).1 (round vs k').1 := by
  induction vs generalizing k k' with
  | nil => exact .nil
  | cons v vs ih =>
    cases k with
    | zero => exact round_noHigher (v :: vs) k'
    | succ k =>
      obtain ⟨k', rfl⟩ := Nat.exists_eq_add_of_le' more
      rw [← Nat.add_assoc]
      simp only [round]
      split
      · exact .cons (Nat.le_refl _) (ih (by omega))
      · exact .cons (Nat.le_refl _) (ih (by omega))

/-- A round that leaves something has been to every vessel, so more would have
been left of more. -/
theorem round_of_left {vs : List Vessel} {k : Nat} (left : 0 < (round vs k).2) (more : Nat) :
    round vs (k + more) = ((round vs k).1, (round vs k).2 + more) := by
  induction vs generalizing k with
  | nil => rfl
  | cons v vs ih =>
    cases k with
    | zero => exact absurd left (Nat.lt_irrefl 0)
    | succ k =>
      have next : k + 1 + more = k + more + 1 := by omega
      rw [next]
      simp only [round] at left ⊢
      split
      · rename_i above
        rw [if_pos above] at left
        rw [ih left]
      · rename_i low
        rw [if_neg low] at left
        rw [← next, ih left]

theorem drain_of_spent {vs : List Vessel} {k : Nat} (spent : (round vs k).2 = 0) :
    (drain vs k).1 = (round vs k).1 := by
  by_cases h : (round vs k).2 < k
  · rw [drain_of_lt h, spent, drain_zero]
  · obtain rfl : k = 0 := by omega
    rw [drain_zero]
    cases vs <;> rfl

theorem drain_round_noHigher (vs : List Vessel) (k : Nat) :
    NoHigher (round vs k).1 (drain vs k).1 := by
  by_cases h : (round vs k).2 < k
  · rw [drain_of_lt h]
    exact drain_noHigher _ _
  · rw [drain_of_not_lt h]
    rcases Nat.eq_zero_or_pos k with rfl | positive
    · have same : (round vs 0).1 = vs := by cases vs <;> rfl
      rw [same]
      exact .refl vs
    · have stuck : (round vs k).2 = k := Nat.le_antisymm (round_le vs k) (Nat.not_lt.1 h)
      rw [round_eq_self ((round_stuck positive).1 stuck)]
      exact .refl vs

/-- The two runs take the same rounds until the smaller budget is used up. -/
theorem drain_mono (vs : List Vessel) {k k' : Nat} (more : k ≤ k') :
    NoHigher (drain vs k).1 (drain vs k').1 := by
  induction k using Nat.strongRecOn generalizing vs k' with
  | ind k ih =>
    rcases Nat.eq_zero_or_pos (round vs k).2 with spent | left
    · rw [drain_of_spent spent]
      exact (round_mono vs more).trans (drain_round_noHigher vs k')
    · obtain ⟨extra, rfl⟩ := Nat.exists_eq_add_of_le more
      have same := round_of_left left extra
      by_cases h : (round vs k).2 < k
      · have h' : (round vs (k + extra)).2 < k + extra := by
          rw [same]
          exact Nat.add_lt_add_right h extra
        rw [drain_of_lt h, drain_of_lt h', same]
        exact ih _ h _ (Nat.le_add_right _ _)
      · have stuck : (round vs k).2 = k := Nat.le_antisymm (round_le vs k) (Nat.not_lt.1 h)
        have low := (round_stuck (by omega)).1 stuck
        rw [drain_eq_self low, drain_eq_self low]
        exact .refl vs

/-- Where a budget is left over, a larger one takes no more. -/
theorem drain_of_left {vs : List Vessel} {k : Nat} (left : 0 < (drain vs k).2) (more : Nat) :
    drain vs (k + more) = ((drain vs k).1, (drain vs k).2 + more) := by
  induction k using Nat.strongRecOn generalizing vs with
  | ind k ih =>
    by_cases h : (round vs k).2 < k
    · rw [drain_of_lt h] at left ⊢
      have some_left : 0 < (round vs k).2 := by
        by_contra spent
        obtain spent : (round vs k).2 = 0 := by omega
        rw [spent, drain_zero] at left
        exact Nat.lt_irrefl 0 left
      have same := round_of_left some_left more
      have h' : (round vs (k + more)).2 < k + more := by
        rw [same]
        exact Nat.add_lt_add_right h more
      rw [drain_of_lt h', same]
      exact ih _ h left
    · rw [drain_of_not_lt h] at left ⊢
      have stuck : (round vs k).2 = k := Nat.le_antisymm (round_le vs k) (Nat.not_lt.1 h)
      exact drain_eq_self ((round_stuck left).1 stuck) _

theorem drain_left_mono (vs : List Vessel) {k k' : Nat} (more : k ≤ k') :
    (drain vs k).2 ≤ (drain vs k').2 := by
  obtain ⟨extra, rfl⟩ := Nat.exists_eq_add_of_le more
  rcases Nat.eq_zero_or_pos (drain vs k).2 with spent | left
  · rw [spent]
    exact Nat.zero_le _
  · rw [drain_of_left left]
    exact Nat.le_add_right _ _

/-! ## Even shares -/

/-- One unit less, above the floor. -/
def Vessel.drip (v : Vessel) : Vessel :=
  if v.floor < v.level then { v with level := v.level - 1 } else v

/-- A round drips from the vessels in front, and from all unless it is used up. -/
theorem round_split (vs : List Vessel) (k : Nat) : ∃ front behind, vs = front ++ behind ∧
    (round vs k).1 = front.map Vessel.drip ++ behind ∧ (0 < (round vs k).2 → behind = []) := by
  induction vs generalizing k with
  | nil => exact ⟨[], [], rfl, rfl, fun _ => rfl⟩
  | cons v vs ih =>
    cases k with
    | zero => exact ⟨[], v :: vs, rfl, rfl, fun left => absurd left (Nat.lt_irrefl 0)⟩
    | succ k =>
      simp only [round]
      split
      · rename_i above
        obtain ⟨front, behind, rfl, dripped, rest⟩ := ih k
        exact ⟨v :: front, behind, rfl, by simp [Vessel.drip, above, dripped], rest⟩
      · rename_i low
        obtain ⟨front, behind, rfl, dripped, rest⟩ := ih (k + 1)
        exact ⟨v :: front, behind, rfl, by simp [Vessel.drip, low, dripped], rest⟩

/-- What was taken from a vessel, given with what is left of it. -/
def lost (p : Vessel × Vessel) : Nat := p.1.level - p.2.level

def Above (v : Vessel) : Prop := v.floor < v.level

/-- Behind a whole round: what is still above its floor has lost the most. -/
def Even (ps : List (Vessel × Vessel)) : Prop := ∀ p ∈ ps, ∀ q ∈ ps, Above q.2 → lost p ≤ lost q

/-- Anywhere in a round: it has lost the most but for one unit, and for the
vessels to its right also that. -/
structure Fair (ps : List (Vessel × Vessel)) : Prop where
  close : ∀ p ∈ ps, ∀ q ∈ ps, Above q.2 → lost p ≤ lost q + 1
  ordered : ps.Pairwise fun q p => Above q.2 → lost p ≤ lost q

theorem Even.fair {ps : List (Vessel × Vessel)} (h : Even ps) : Fair ps where
  close p hp q hq above := Nat.le_succ_of_le (h p hp q hq above)
  ordered := List.pairwise_of_forall_mem_list fun q hq p hp above => h p hp q hq above

/-- The pair behind a drip. -/
def dripped (p : Vessel × Vessel) : Vessel × Vessel := (p.1, p.2.drip)

theorem above_of_dripped {p : Vessel × Vessel} (above : Above (dripped p).2) : Above p.2 := by
  unfold dripped Vessel.drip Above at above
  unfold Above
  split at above
  · assumption
  · exact above

theorem lost_dripped_le (p : Vessel × Vessel) : lost (dripped p) ≤ lost p + 1 := by
  unfold lost dripped Vessel.drip
  dsimp only
  split
  · dsimp only
    omega
  · omega

theorem le_lost_dripped (p : Vessel × Vessel) : lost p ≤ lost (dripped p) := by
  unfold lost dripped Vessel.drip
  dsimp only
  split
  · dsimp only
    omega
  · omega

theorem lost_dripped_of_above {p : Vessel × Vessel} (lower : p.2.level ≤ p.1.level)
    (above : Above p.2) :
    lost (dripped p) = lost p + 1 := by
  unfold Above at above
  unfold lost dripped Vessel.drip
  rw [if_pos above]
  simp only
  omega

section Drip
variable {front behind : List (Vessel × Vessel)} (h : Even (front ++ behind))
  (lower : ∀ p ∈ front, p.2.level ≤ p.1.level)
include h lower

theorem Even.drip_all (whole : behind = []) : Even (front.map dripped) := by
  subst whole
  rw [List.append_nil] at h
  intro p' hp' q' hq' above
  obtain ⟨p, hp, rfl⟩ := List.mem_map.1 hp'
  obtain ⟨q, hq, rfl⟩ := List.mem_map.1 hq'
  have before := h p hp q hq (above_of_dripped above)
  have most := lost_dripped_le p
  rw [lost_dripped_of_above (lower q hq) (above_of_dripped above)]
  omega

theorem Even.drip_front : Fair (front.map dripped ++ behind) := by
  have even {p q : Vessel × Vessel} (hp : p ∈ front ++ behind) (hq : q ∈ front ++ behind)
      (above : Above q.2) :
      lost p ≤ lost q := h p hp q hq above
  constructor
  · intro p hp q hq above
    have before : ∃ q' ∈ front ++ behind, Above q'.2 ∧ lost q' ≤ lost q := by
      rcases List.mem_append.1 hq with hq | hq
      · obtain ⟨q', hq', rfl⟩ := List.mem_map.1 hq
        exact ⟨q', List.mem_append_left _ hq', above_of_dripped above, le_lost_dripped q'⟩
      · exact ⟨q, List.mem_append_right _ hq, above, Nat.le_refl _⟩
    obtain ⟨q', hq', above', less⟩ := before
    rcases List.mem_append.1 hp with hp | hp
    · obtain ⟨p', hp', rfl⟩ := List.mem_map.1 hp
      have := even (List.mem_append_left _ hp') hq' above'
      have := lost_dripped_le p'
      omega
    · have := even (List.mem_append_right _ hp) hq' above'
      omega
  · have order {q : Vessel × Vessel} (hq : q ∈ front) (above : Above (dripped q).2)
      {p : Vessel × Vessel}
      (hp : p ∈ front ++ behind) : lost p + 1 ≤ lost (dripped q) := by
      rw [lost_dripped_of_above (lower q hq) (above_of_dripped above)]
      exact Nat.succ_le_succ (even hp (List.mem_append_left _ hq) (above_of_dripped above))
    rw [List.pairwise_append]
    refine ⟨?_, ?_, ?_⟩
    · rw [List.pairwise_map]
      refine List.pairwise_of_forall_mem_list fun q hq p hp above => ?_
      exact Nat.le_trans (lost_dripped_le p) (order hq above (List.mem_append_left _ hp))
    · exact List.pairwise_of_forall_mem_list fun q hq p hp above =>
        even (List.mem_append_right _ hp) (List.mem_append_right _ hq) above
    · intro q' hq' p hp above
      obtain ⟨q, hq, rfl⟩ := List.mem_map.1 hq'
      exact Nat.le_of_succ_le (order hq above (List.mem_append_right _ hp))

end Drip

/-- Every round but the one the budget ends in is whole. -/
theorem drain_fair (vs : List Vessel) (k : Nat) : Fair (vs.zip (drain vs k).1) := by
  suffices run : NoHigher vs (drain vs k).1 ∧
      (Even (vs.zip (drain vs k).1) ∨ (drain vs k).2 = 0 ∧ Fair (vs.zip (drain vs k).1)) by
    rcases run.2 with even | ⟨_, fair⟩
    · exact even.fair
    · exact fair
  apply drain_induction (P := fun us b => NoHigher vs us ∧
    (Even (vs.zip us) ∨ b = 0 ∧ Fair (vs.zip us)))
  · refine ⟨.refl vs, .inl ?_⟩
    intro p hp q _ _
    have same : List.Forall₂ Eq vs vs := List.forall₂_same.2 fun _ _ => rfl
    have level : p.1 = p.2 := (List.forall₂_iff_zip.1 same).2 hp
    simp [lost, level]
  · rintro us b ⟨lower, even | ⟨rfl, fair⟩⟩
    · refine ⟨lower.trans (round_noHigher us b), ?_⟩
      obtain ⟨front, behind, rfl, after, whole⟩ := round_split us b
      obtain ⟨length, pointwise⟩ := List.forall₂_iff_zip.1 lower
      obtain ⟨vs, vs', rfl, long⟩ : ∃ ws ws', vs = ws ++ ws' ∧ ws.length = front.length := by
        refine ⟨vs.take front.length, vs.drop front.length, (List.take_append_drop _ _).symm, ?_⟩
        rw [List.length_take, length, List.length_append]
        omega
      rw [List.zip_append long] at even pointwise
      have below : ∀ p ∈ vs.zip front, p.2.level ≤ p.1.level :=
        fun p hp => pointwise (a := p.1) (b := p.2) (List.mem_append_left _ hp)
      have pairs : (vs ++ vs').zip (round (front ++ behind) b).1 =
          (vs.zip front).map dripped ++ vs'.zip behind := by
        rw [after, List.zip_append (by simpa using long), List.zip_map_right]
        rfl
      rw [pairs]
      rcases Nat.eq_zero_or_pos (round (front ++ behind) b).2 with spent | left
      · exact .inr ⟨spent, even.drip_front below⟩
      · have nothing : vs'.zip behind = [] := by rw [whole left, List.zip_nil_right]
        rw [nothing, List.append_nil]
        rw [nothing] at even
        exact .inl (even.drip_all below rfl)
    · have same : round us 0 = (us, 0) := by cases us <;> rfl
      rw [same]
      exact ⟨lower, .inr ⟨rfl, fair⟩⟩

/-- The same, read at two places of the row. -/
theorem Fair.at {ps : List (Vessel × Vessel)} (h : Fair ps) {i j : Nat} {p q : Vessel × Vessel}
    (here : ps[i]? = some p) (there : ps[j]? = some q) (above : Above q.2) :
    lost p ≤ lost q + 1 ∧ (j < i → lost p ≤ lost q) := by
  refine ⟨h.close p (List.mem_of_getElem? here) q (List.mem_of_getElem? there) above,
    fun left => ?_⟩
  obtain ⟨inside, rfl⟩ := List.getElem?_eq_some_iff.1 here
  obtain ⟨inside', rfl⟩ := List.getElem?_eq_some_iff.1 there
  exact List.pairwise_iff_getElem.1 h.ordered j i inside' inside left above

end Drain
