import BeastieBoy.TableText

/-!
# More room

With more room there is less to take, and the shrink loop takes it in the same
order; so it stops earlier in one and the same run of takings, be it in the
first phase or in the second.
-/

namespace BeastieBoy

open CLib Drain

/-- The cell holds the text as it is. -/
def CellHolds (value : CString) (width : Nat) (align : AppTableAlign) : Prop :=
  value <:+: appTablePrintCell value width align

theorem cellHolds_iff (value : CString) (width : Nat) (align : AppTableAlign) :
    CellHolds value width align ↔ value.length ≤ width := by
  rw [CellHolds, appTablePrintCell_eq]
  constructor
  · intro shown
    have short := shown.length_le
    rwa [length_fittedCell] at short
  · intro fits
    cases align with
    | left =>
      rw [fittedCell_left fits]
      exact (List.prefix_append _ _).isInfix
    | right =>
      rw [fittedCell_right fits]
      exact (List.suffix_append _ _).isInfix

/-- The widths on the right are no larger. -/
abbrev NoWider (cols cols' : List (AppTableColumn × Nat)) : Prop :=
  List.Forall₂ (fun c c' => c'.2 ≤ c.2) cols cols'

theorem noWider_of_noHigher {v : AppTableColumn → Nat → Vessel} (level : ∀ c w, (v c w).level = w)
    {cols cols' : List (AppTableColumn × Nat)} (h : NoHigher (vessels v cols) (vessels v cols')) :
    NoWider cols cols' := by
  simpa only [NoHigher, vessels, List.forall₂_map_left_iff, List.forall₂_map_right_iff,
    level] using h

theorem NoWider.trans {cols mid cols' : List (AppTableColumn × Nat)} (h : NoWider cols mid)
    (k : NoWider mid cols') : NoWider cols cols' := by
  refine forall₂_trans ?_ h k
  exact fun _ _ _ less less' => Nat.le_trans less' less

section Phases
variable {v : AppTableColumn → Nat → Vessel} {cols low high : List (AppTableColumn × Nat)}
    {k k' l l' : Nat}

theorem Drains.noWider (level : ∀ c w, (v c w).level = w) (h : Drains v cols k low l) :
    NoWider cols low := by
  apply noWider_of_noHigher level
  have lower := drain_noHigher (vessels v cols) k
  rwa [h.drained] at lower

/-- One phase with two budgets. -/
theorem Drains.mono (level : ∀ c w, (v c w).level = w) (h : Drains v cols k high l)
    (h' : Drains v cols k' low l') (more : k ≤ k') : NoWider high low ∧ l ≤ l' := by
  have lower := drain_mono (vessels v cols) more
  have left := drain_left_mono (vessels v cols) more
  rw [h.drained, h'.drained] at lower left
  exact ⟨noWider_of_noHigher level lower, left⟩

/-- A phase that does not use up its budget ends where it does with a larger one. -/
theorem Drains.same {may : AppTableColumn → Nat → Bool} (phase : Phase may v)
    (h : Drains v cols k high l)
    (h' : Drains v cols k' low l') (more : k ≤ k') (left : 0 < l) : low = high := by
  obtain ⟨extra, rfl⟩ := Nat.exists_eq_add_of_le more
  have drained := h'.drained
  rw [drain_of_left (by rw [h.drained]; exact left), h.drained] at drained
  exact (vessels_injective phase (h.columns.trans h'.columns.symm) (Prod.mk.inj drained).1).symm

end Phases

theorem shrinkLoop_mono (cols : List (AppTableColumn × Nat)) {k k' : Nat} (more : k ≤ k') :
    NoWider (shrinkLoop cols k) (shrinkLoop cols k') := by
  obtain ⟨mid, l, r, one, two⟩ := shrinkLoop_drains cols k
  obtain ⟨mid', l', r', one', two'⟩ := shrinkLoop_drains cols k'
  obtain ⟨lower, less⟩ := one.mono flexible_phase.level one' more
  rcases Nat.eq_zero_or_pos l with rfl | left
  · -- The run with more room ends in its first phase.
    have ended := two.drained
    rw [drain_zero] at ended
    obtain rfl := vessels_injective any_phase two.columns.symm (Prod.mk.inj ended).1
    exact lower.trans (two'.noWider any_phase.level)
  · obtain rfl := one.same flexible_phase one' more left
    exact (two.mono any_phase.level two' less).1

/-- **More room never narrows a column**, so a text that is shown in full stays
shown in full. -/
theorem widths_wider (t : AppTable) {available available' : Nat} (wider : available ≤ available') :
    List.Forall₂ (· ≤ ·) (t.finalWidths available) (t.finalWidths available') ∧
      ∀ (j w w' : Nat), (t.finalWidths available)[j]? = some w →
        (t.finalWidths available')[j]? = some w' →
        ∀ value align, CellHolds value w align → CellHolds value w' align := by
  have widths : List.Forall₂ (· ≤ ·) (t.finalWidths available) (t.finalWidths available') := by
    rw [t.finalWidths_eq, t.finalWidths_eq, List.forall₂_map_left_iff, List.forall₂_map_right_iff]
    exact (shrinkLoop_mono _ (Nat.sub_le_sub_left wider _)).flip
  refine ⟨widths, fun j w w' width width' value align shown => ?_⟩
  rw [cellHolds_iff] at shown ⊢
  obtain ⟨inside, rfl⟩ := List.getElem?_eq_some_iff.1 width
  obtain ⟨inside', rfl⟩ := List.getElem?_eq_some_iff.1 width'
  exact Nat.le_trans shown ((List.forall₂_iff_get.1 widths).2 j inside inside')

/-- The port table in ten columns, and in thirteen. -/
theorem port_table_wider : List.Forall₂ (· ≤ ·) (portTable.finalWidths 10)
    (portTable.finalWidths 13) :=
  (widths_wider portTable (by decide)).1

end BeastieBoy
