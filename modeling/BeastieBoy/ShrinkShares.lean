import BeastieBoy.TableText

/-!
# Fair shares

No column that could still give gives less than another one, but for one unit
and the order of the columns. This holds of the first phase among the flexible
columns, and of the second one among all of them.
-/

namespace BeastieBoy

open Drain

/-- A turn of the `while` loop comes to the second `for` loop. -/
inductive SecondPhase : List (AppTableColumn × Nat) → Nat → Prop
  | here {cols : List (AppTableColumn × Nat)} {overflow : Nat} (positive : 0 < overflow)
      (kept : (shrinkPass mayShrinkFlexible cols overflow).2.2 = false) : SecondPhase cols overflow
  | later {cols : List (AppTableColumn × Nat)} {overflow : Nat} (positive : 0 < overflow)
      (reduced : (shrinkTurn cols overflow).2.2 = true)
      (rest : SecondPhase (shrinkTurn cols overflow).1 (shrinkTurn cols overflow).2.1) :
        SecondPhase cols overflow

/-- The pass begins the drain. -/
theorem Drains.after_pass {may : AppTableColumn → Nat → Bool} {v : AppTableColumn → Nat → Vessel}
    (phase : Phase may v) {cols cols' : List (AppTableColumn × Nat)} {k k' : Nat}
    (reduced : (shrinkPass may cols k).2.2 = true) (h : Drains v cols k cols' k') :
    Drains v (shrinkPass may cols k).1 (shrinkPass may cols k).2.1 cols' k' := by
  refine ⟨h.columns.trans (shrinkPass_columns cols k).symm, ?_⟩
  have lt : (round (vessels v cols) k).2 < k := by
    rw [shrinkPass_round phase]
    exact shrinkPass_lt reduced
  rw [← h.drained, drain_of_lt lt, shrinkPass_round phase]

theorem Drains.left_of_kept {cols mid : List (AppTableColumn × Nat)} {k k' : Nat}
    (h : Drains flexibleVessel cols k mid k') (positive : 0 < k)
    (kept : (shrinkPass mayShrinkFlexible cols k).2.2 = false) : 0 < k' := by
  obtain ⟨_, _, low⟩ := low_of_not_reduced flexible_phase positive (Bool.eq_false_iff.1 kept)
  have stuck := h.drained
  rw [drain_eq_self low] at stuck
  obtain ⟨_, rfl⟩ := Prod.mk.inj stuck
  exact positive

/-- The second phase is come to with some overflow left. -/
theorem SecondPhase.left {cols mid : List (AppTableColumn × Nat)} {k k' : Nat}
    (second : SecondPhase cols k) (h : Drains flexibleVessel cols k mid k') : 0 < k' := by
  induction second with
  | here positive kept => exact h.left_of_kept positive kept
  | @later cols k positive _ rest ih =>
    cases first : (shrinkPass mayShrinkFlexible cols k).2.2 with
    | false => exact h.left_of_kept positive first
    | true =>
      have turn : shrinkTurn cols k = shrinkPass mayShrinkFlexible cols k := by
        simp [shrinkTurn, first]
      rw [turn] at ih
      exact ih (h.after_pass flexible_phase first)

/-- What a phase took, read at two columns. -/
theorem Drains.fair {v : AppTableColumn → Nat → Vessel} {may : AppTableColumn → Nat → Bool}
    (phase : Phase may v)
    {cols cols' : List (AppTableColumn × Nat)} {k k' : Nat} (h : Drains v cols k cols' k')
    {a b : Nat} {c d : AppTableColumn} {w w' u u' : Nat}
    (before : cols[a]? = some (c, w)) (after : cols'[a]? = some (c, w'))
    (before' : cols[b]? = some (d, u)) (after' : cols'[b]? = some (d, u'))
    (allowed : may d u' = true) :
    w - w' ≤ u - u' + 1 ∧ (b < a → w - w' ≤ u - u') := by
  have fair := drain_fair (vessels v cols) k
  rw [h.drained] at fair
  have at_place {i : Nat} {e : AppTableColumn} {x x' : Nat} (hx : cols[i]? = some (e, x))
      (hx' : cols'[i]? = some (e, x')) :
      ((vessels v cols).zip (vessels v cols'))[i]? = some (v e x, v e x') := by
    simp [List.getElem?_zip_eq_some, vessels, hx, hx']
  have above : Above (v d u') := by
    rw [Above, phase.level]
    exact (phase.may_iff d u').1 allowed
  have shares := fair.at (at_place before after) (at_place before' after') above
  simpa only [lost, phase.level] using shares

/-- What the second phase starts from. -/
def firstWidth (column : AppTableColumn) (width : Nat) : Nat :=
  if column.isFlexible then min width column.minWidth else width

theorem FlexiblyShrunk.eq_firstWidth {c c' : AppTableColumn × Nat} (h : FlexiblyShrunk c c')
    (done : c'.1.isFlexible = true → c'.2 ≤ c'.1.minWidth) : c' = (c.1, firstWidth c.1 c.2) := by
  obtain ⟨column, hi, lo⟩ := h
  refine Prod.ext column ?_
  unfold firstWidth
  rw [column] at done
  split at lo
  · rename_i flexible
    have := done flexible
    rw [if_pos flexible]
    simp only
    omega
  · rename_i rigid
    rw [if_neg rigid]
    exact lo

theorem forall₂_at {α β : Type} {R : α → β → Prop} {xs : List α} {ys : List β}
    (h : List.Forall₂ R xs ys)
    {i : Nat} {x : α} {y : β} (hx : xs[i]? = some x) (hy : ys[i]? = some y) : R x y :=
  (List.forall₂_iff_zip.1 h).2 (List.mem_of_getElem? (List.getElem?_zip_eq_some.2 ⟨hx, hy⟩))

namespace AppTable

/-- The outcome read off the widths the loop runs on. -/
theorem outcome_at (t : AppTable) {available : Nat} {final : List (AppTableColumn × Nat)}
    (columns : final.map Prod.fst = t.columns)
    (widths : t.finalWidths available = final.map Prod.snd)
    {j : Nat} {x : AppTableColumn × Nat × Nat} (place : (t.outcome available)[j]? = some x) :
    (t.columns.zip t.clampedWidths)[j]? = some (x.1, x.2.1) ∧ final[j]? = some (x.1, x.2.2) := by
  obtain ⟨c, w, w'⟩ := x
  simp only [outcome, List.getElem?_zip_eq_some, widths, ← columns, List.getElem?_map] at place ⊢
  obtain ⟨hc, hw, hw'⟩ := place
  refine ⟨⟨hc, hw⟩, ?_⟩
  obtain ⟨y, there, rfl⟩ := Option.map_eq_some_iff.1 hc
  rw [there] at hw' ⊢
  obtain rfl := Option.some.inj hw'
  rfl

/-- Rendering for `available` columns comes to the second phase. -/
def NeedsSecondPhase (t : AppTable) (available : Nat) : Prop :=
  SecondPhase (t.columns.zip t.clampedWidths) (t.clampedWidths.sum + t.gaps - available)

end AppTable

/-- **Shrinking is fair.** Of two flexible columns the one that ends above its
`min_width` has lost as much as the other, but for one, and not even that when
it stands to the left. The same holds in the second phase of any two columns, of
which one ends above three. -/
theorem shrinking_fair (t : AppTable) (available a b : Nat) (x y : AppTableColumn × Nat × Nat)
    (hx : (t.outcome available)[a]? = some x) (hy : (t.outcome available)[b]? = some y) :
    let r (z : AppTableColumn × Nat × Nat) : Nat := z.2.1 - z.2.2
    let v (z : AppTableColumn × Nat × Nat) : Nat := firstWidth z.1 z.2.1
    let s (z : AppTableColumn × Nat × Nat) : Nat := v z - z.2.2
    x.2.2 ≤ x.2.1 ∧
    (x.1.isFlexible = true → y.1.isFlexible = true → y.1.minWidth < y.2.2 →
      r x ≤ r y + 1 ∧ (b < a → r x ≤ r y)) ∧
    (t.NeedsSecondPhase available → x.2.2 ≤ v x ∧
      (3 < y.2.2 → s x ≤ s y + 1 ∧ (b < a → s x ≤ s y))) := by
  dsimp only
  obtain ⟨mid, k', k'', one, two⟩ := shrinkLoop_drains (t.columns.zip t.clampedWidths)
    (t.clampedWidths.sum + t.gaps - available)
  have h := one.shrinks two
  have columns :=
    two.columns.trans (one.columns.trans
      (List.map_fst_zip (Nat.le_of_eq t.clampedWidths_length.symm)))
  have widths := t.finalWidths_eq available
  generalize shrinkLoop _ _ = final at two h columns widths
  obtain ⟨before, after⟩ := t.outcome_at columns widths hx
  obtain ⟨before', after'⟩ := t.outcome_at columns widths hy
  refine ⟨(forall₂_at h.bounds before after).2, ?_, ?_⟩
  · intro flexible flexible' above
    have spent : k' = 0 := by
      rcases Nat.eq_zero_or_pos k' with spent | left
      · exact spent
      · have := forall₂_at (h.minima.2 left) before' after' flexible'
        simp only at this
        omega
    rw [h.unused spent] at after after'
    exact one.fair flexible_phase before after before' after'
      (by simp [mayShrinkFlexible, flexible', above])
  · intro second
    have left := second.left one
    have start {j : Nat} {z : AppTableColumn × Nat × Nat}
        (place : (t.columns.zip t.clampedWidths)[j]? = some (z.1, z.2.1)) :
        mid[j]? = some (z.1, firstWidth z.1 z.2.1) := by
      obtain ⟨inside, _⟩ := List.getElem?_eq_some_iff.1 place
      have inside' : j < mid.length := h.first.length_eq ▸ inside
      have there : mid[j]? = some mid[j] := List.getElem?_eq_getElem inside'
      have first := forall₂_at h.first place there
      rw [there, first.eq_firstWidth (h.first_done left _ (List.mem_of_getElem? there))]
    refine ⟨(forall₂_at h.second (start before) after).2.1, fun above => ?_⟩
    exact two.fair any_phase (start before) after (start before') after'
      (by simpa [mayShrinkAny] using above)

def sensorTable : AppTable where
  columns :=
    [⟨some "Location".toList, 4, 0, true, .left⟩, ⟨some "Sensor".toList, 4, 0, true, .left⟩,
    ⟨some "Value".toList, 0, 0, false, .right⟩]
  rows := []
  rowCapacity := 0
  cells_length := by decide

theorem sensor_table_widths : sensorTable.finalWidths 15 = [3, 3, 5] := by
  have clamped : sensorTable.clampedWidths = [8, 6, 5] := by decide
  rw [sensorTable.finalWidths_eq, clamped]
  simp [sensorTable, AppTable.gaps, appTableColumnGap, shrinkLoop, shrinkTurn, shrinkPass,
    mayShrinkFlexible,
    mayShrinkAny]

/-- Two units are left for the second phase: it takes them from the flexible
columns, in front of the third, which keeps its five. -/
theorem sensor_table_shares :
    (sensorTable.outcome 15).map Prod.snd = [(8, 3), (6, 3), (5, 5)] ∧
    sensorTable.NeedsSecondPhase 15 ∧
      4 - 3 ≤ 5 - 5 + 1 := by
  have outcome : (sensorTable.outcome 15).map Prod.snd = [(8, 3), (6, 3), (5, 5)] := by
    rw [AppTable.outcome, sensor_table_widths]
    decide
  have second : sensorTable.NeedsSecondPhase 15 := by
    -- Four passes take six units from the flexible columns, the fifth none.
    have fifth : SecondPhase (sensorTable.columns.zip [4, 4, 5]) 2 := .here (by decide) (by decide)
    exact .later (by decide) (by decide) (.later (by decide) (by decide)
      (.later (by decide) (by decide) (.later (by decide) (by decide) fifth)))
  refine ⟨outcome, second, ?_⟩
  have fair := shrinking_fair sensorTable 15 0 2
    (sensorTable.columns[0], 8, 3) (sensorTable.columns[2], 5, 5)
    (by rw [AppTable.outcome, sensor_table_widths]; decide)
    (by rw [AppTable.outcome, sensor_table_widths]; decide)
  exact ((fair.2.2 second).2 (by decide)).1

end BeastieBoy
