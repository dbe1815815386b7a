import BeastieBoy.Drain
import BeastieBoy.Table

/-!
# The column widths of a rendered table

The two phases of the shrink loop are two drains, one after the other: first of
the flexible columns down to their `min_width`, then of all columns down to
three. `app_table_widths` states from this where every width ends.
-/

namespace BeastieBoy

open Drain

/-- The first phase sees a column that cannot shrink as being on its floor. -/
def flexibleVessel (column : AppTableColumn) (width : Nat) : Vessel :=
  ⟨width, if column.isFlexible then column.minWidth else width⟩

def anyVessel (_ : AppTableColumn) (width : Nat) : Vessel := ⟨width, 3⟩

/-- The columns read as vessels. -/
def vessels (v : AppTableColumn → Nat → Vessel) (cols : List (AppTableColumn × Nat)) :
    List Vessel :=
  cols.map fun c => v c.1 c.2

/-- The `for` loop guarded by `may` is a round over the vessels `v`. -/
structure Phase (may : AppTableColumn → Nat → Bool) (v : AppTableColumn → Nat → Vessel) : Prop where
  level : ∀ c w, (v c w).level = w
  may_iff : ∀ c w, may c w = true ↔ (v c w).floor < w
  floor_fixed : ∀ c w, may c w = true → (v c (w - 1)).floor = (v c w).floor

theorem flexible_phase : Phase mayShrinkFlexible flexibleVessel where
  level _ _ := rfl
  may_iff c w := by cases h : c.isFlexible <;> simp [mayShrinkFlexible, flexibleVessel, h]
  floor_fixed c w h := by
    simp only [mayShrinkFlexible, Bool.and_eq_true] at h
    simp [flexibleVessel, h.1]

theorem any_phase : Phase mayShrinkAny anyVessel where
  level _ _ := rfl
  may_iff c w := by simp [mayShrinkAny, anyVessel]
  floor_fixed _ _ _ := rfl

section Passes
variable {may : AppTableColumn → Nat → Bool} {v : AppTableColumn → Nat → Vessel}

theorem shrinkPass_columns (cols : List (AppTableColumn × Nat)) (k : Nat) :
    (shrinkPass may cols k).1.map Prod.fst = cols.map Prod.fst := by
  induction cols generalizing k with
  | nil => rfl
  | cons col rest ih =>
    simp only [shrinkPass]
    split
    · rfl
    · split <;> simp only [List.map_cons, ih]

theorem shrinkPass_round (phase : Phase may v) (cols : List (AppTableColumn × Nat)) (k : Nat) :
    round (vessels v cols) k =
      (vessels v (shrinkPass may cols k).1, (shrinkPass may cols k).2.1) := by
  induction cols generalizing k with
  | nil => rfl
  | cons col rest ih =>
    obtain ⟨c, w⟩ := col
    cases k with
    | zero => simp [shrinkPass, vessels, Drain.round]
    | succ k =>
      have head : vessels v ((c, w) :: rest) = v c w :: vessels v rest := rfl
      by_cases allowed : may c w = true
      · have above := (phase.may_iff c w).1 allowed
        have lowered : (⟨w - 1, (v c w).floor⟩ : Vessel) = v c (w - 1) :=
          Vessel.ext (phase.level c (w - 1)).symm (phase.floor_fixed c w allowed).symm
        rw [head, Drain.round, phase.level, if_pos above, lowered, ih]
        simp [shrinkPass, allowed, vessels]
      · have not_above : ¬ (v c w).floor < w := fun h => allowed ((phase.may_iff c w).2 h)
        rw [head, Drain.round, phase.level, if_neg not_above, ih]
        simp [shrinkPass, allowed, vessels]

theorem shrinkPass_reduced_iff (cols : List (AppTableColumn × Nat)) (k : Nat) :
    (shrinkPass may cols k).2.2 = true ↔ (shrinkPass may cols k).2.1 < k := by
  refine ⟨shrinkPass_lt, ?_⟩
  induction cols generalizing k with
  | nil => simp [shrinkPass]
  | cons col rest ih =>
    simp only [shrinkPass]
    split
    · intro h; exact absurd h (Nat.lt_irrefl _)
    · split
      · exact fun _ => rfl
      · exact ih k

/-- Columns and vessels determine the widths. -/
theorem vessels_injective (phase : Phase may v) {xs ys : List (AppTableColumn × Nat)}
    (columns : xs.map Prod.fst = ys.map Prod.fst) (same : vessels v xs = vessels v ys) :
    xs = ys := by
  induction xs generalizing ys with
  | nil => cases ys with
    | nil => rfl
    | cons y ys => simp at columns
  | cons x xs ih =>
    cases ys with
    | nil => simp at columns
    | cons y ys =>
      simp only [List.map_cons, List.cons.injEq, vessels] at columns same
      have width : x.2 = y.2 := by
        rw [← phase.level x.1 x.2, ← phase.level y.1 y.2, same.1]
      rw [ih columns.2 same.2, Prod.ext columns.1 width]

end Passes

/-- Draining the vessels of `cols` with `k` leads to the widths `cols'`, with
`k'` left. -/
structure Drains (v : AppTableColumn → Nat → Vessel) (cols : List (AppTableColumn × Nat)) (k : Nat)
    (cols' : List (AppTableColumn × Nat)) (k' : Nat) : Prop where
  columns : cols'.map Prod.fst = cols.map Prod.fst
  drained : drain (vessels v cols) k = (vessels v cols', k')

theorem Drains.refl_of_low {v : AppTableColumn → Nat → Vessel} {cols : List (AppTableColumn × Nat)}
    (low : ∀ u ∈ vessels v cols, u.level ≤ u.floor) (k : Nat) : Drains v cols k cols k :=
  ⟨rfl, drain_eq_self low k⟩

theorem Drains.zero (v : AppTableColumn → Nat → Vessel) (cols : List (AppTableColumn × Nat)) :
    Drains v cols 0 cols 0 :=
  ⟨rfl, drain_zero _⟩

/-- A pass that reduced something begins the drain. -/
theorem Drains.of_pass {may : AppTableColumn → Nat → Bool} {v : AppTableColumn → Nat → Vessel}
    (phase : Phase may v) {cols cols' : List (AppTableColumn × Nat)} {k k' : Nat}
    (reduced : (shrinkPass may cols k).2.2 = true)
    (h : Drains v (shrinkPass may cols k).1 (shrinkPass may cols k).2.1 cols' k') :
    Drains v cols k cols' k' := by
  refine ⟨h.columns.trans (shrinkPass_columns cols k), ?_⟩
  have lt : (round (vessels v cols) k).2 < k := by
    rw [shrinkPass_round phase]; exact shrinkPass_lt reduced
  rw [drain_of_lt lt, shrinkPass_round phase, h.drained]

/-- A pass that reduced nothing found every column on its floor. -/
theorem low_of_not_reduced {may : AppTableColumn → Nat → Bool} {v : AppTableColumn → Nat → Vessel}
    (phase : Phase may v) {cols : List (AppTableColumn × Nat)} {k : Nat} (positive : 0 < k)
    (kept : ¬ (shrinkPass may cols k).2.2 = true) :
    (shrinkPass may cols k).1 = cols ∧ (shrinkPass may cols k).2.1 = k ∧
      ∀ u ∈ vessels v cols, u.level ≤ u.floor := by
  have budget : (shrinkPass may cols k).2.1 = k := by
    have := shrinkPass_le may cols k
    rw [shrinkPass_reduced_iff] at kept
    omega
  have low : ∀ u ∈ vessels v cols, u.level ≤ u.floor := by
    refine (round_stuck positive).1 ?_
    rw [shrinkPass_round phase]
    exact budget
  have same := shrinkPass_round phase cols k
  rw [round_eq_self low] at same
  exact ⟨vessels_injective phase (shrinkPass_columns cols k) (congrArg Prod.fst same).symm,
    budget, low⟩

/-- Widths that have shrunk below a low row of flexible columns are low. -/
theorem flexible_low_of_pass {cols : List (AppTableColumn × Nat)} {k : Nat}
    (low : ∀ u ∈ vessels flexibleVessel cols, u.level ≤ u.floor) :
    ∀ u ∈ vessels flexibleVessel (shrinkPass mayShrinkAny cols k).1, u.level ≤ u.floor := by
  induction cols generalizing k with
  | nil => intro u hu; cases hu
  | cons col rest ih =>
    obtain ⟨hd, tl⟩ := List.forall_mem_cons.1 low
    simp only [shrinkPass]
    split
    · exact low
    · split
      · refine List.forall_mem_cons.2 ⟨?_, ih tl⟩
        simp only [flexibleVessel] at hd ⊢
        split at hd <;> rename_i flexible <;> simp only [flexible, ↓reduceIte, Bool.false_eq_true]
        · omega
        · exact Nat.le_refl _
      · exact List.forall_mem_cons.2 ⟨hd, ih tl⟩

/-- **The shrink loop is two drains.** -/
theorem shrinkLoop_drains (cols : List (AppTableColumn × Nat)) (k : Nat) :
    ∃ mid k' k'', Drains flexibleVessel cols k mid k' ∧
      Drains anyVessel mid k' (shrinkLoop cols k) k'' := by
  induction k using Nat.strongRecOn generalizing cols with
  | ind k ih =>
    by_cases positive : k > 0
    · by_cases first : (shrinkPass mayShrinkFlexible cols k).2.2 = true
      · -- the first pass reduced a flexible column
        have turn : shrinkTurn cols k = shrinkPass mayShrinkFlexible cols k := by
          simp [shrinkTurn, first]
        have loop : shrinkLoop cols k = shrinkLoop (shrinkPass mayShrinkFlexible cols k).1
            (shrinkPass mayShrinkFlexible cols k).2.1 := by
          rw [shrinkLoop, if_pos positive, dif_pos (turn ▸ first), turn]
        obtain ⟨mid, k', k'', one, two⟩ := ih _ (shrinkPass_lt first) _
        exact ⟨mid, k', k'', one.of_pass flexible_phase first, loop ▸ two⟩
      · -- no flexible column is above its minimum, now and from here on
        obtain ⟨same, budget, low⟩ := low_of_not_reduced flexible_phase positive first
        have turn : shrinkTurn cols k = shrinkPass mayShrinkAny cols k := by
          simp only [shrinkTurn, first, Bool.false_eq_true, ↓reduceIte, same, budget]
        refine ⟨cols, k, ?_⟩
        by_cases second : (shrinkPass mayShrinkAny cols k).2.2 = true
        · have loop : shrinkLoop cols k = shrinkLoop (shrinkPass mayShrinkAny cols k).1
              (shrinkPass mayShrinkAny cols k).2.1 := by
            rw [shrinkLoop, if_pos positive, dif_pos (turn ▸ second), turn]
          obtain ⟨mid, k', k'', one, two⟩ :=
            ih _ (shrinkPass_lt second) (shrinkPass mayShrinkAny cols k).1
          have stuck := one.drained
          rw [drain_eq_self (flexible_low_of_pass low)] at stuck
          obtain ⟨hv, rfl⟩ := Prod.mk.inj stuck
          obtain rfl := vessels_injective flexible_phase one.columns.symm hv
          exact ⟨k'', .refl_of_low low k, loop ▸ two.of_pass any_phase second⟩
        · obtain ⟨same', budget', low'⟩ := low_of_not_reduced any_phase positive second
          have loop : shrinkLoop cols k = cols := by
            rw [shrinkLoop, if_pos positive, dif_neg (turn ▸ second), turn, same']
          rw [loop]
          exact ⟨k, .refl_of_low low k, .refl_of_low low' k⟩
    · obtain rfl : k = 0 := by omega
      have loop : shrinkLoop cols 0 = cols := by rw [shrinkLoop, if_neg (Nat.lt_irrefl 0)]
      rw [loop]
      exact ⟨cols, 0, 0, .zero _ _, .zero _ _⟩

/-! ## Where every width ends -/

def widthSum (cols : List (AppTableColumn × Nat)) : Nat := (cols.map Prod.snd).sum

theorem total_vessels {v : AppTableColumn → Nat → Vessel} (level : ∀ c w, (v c w).level = w)
    (cols : List (AppTableColumn × Nat)) : total (vessels v cols) = widthSum cols := by
  simp only [total, vessels, widthSum, List.map_map, Function.comp_def, level]

theorem Drains.sum {v : AppTableColumn → Nat → Vessel} (level : ∀ c w, (v c w).level = w)
    {cols cols' : List (AppTableColumn × Nat)} {k k' : Nat} (h : Drains v cols k cols' k') :
    widthSum cols' + k = widthSum cols + k' := by
  have := drain_sum (vessels v cols) k
  rwa [h.drained, total_vessels level, total_vessels level] at this

theorem Drains.bounds {v : AppTableColumn → Nat → Vessel} {cols cols' : List (AppTableColumn × Nat)}
    {k k' : Nat} (h : Drains v cols k cols' k') :
    List.Forall₂ (fun c c' => c'.1 = c.1 ∧ Drained (v c.1 c.2) (v c'.1 c'.2)) cols cols' := by
  have columns : List.Forall₂ (fun c c' => c'.1 = c.1) cols cols' := by
    have : List.Forall₂ Eq (cols.map Prod.fst) (cols'.map Prod.fst) := by
      rw [List.forall₂_eq_eq_eq]; exact h.columns.symm
    simp only [List.forall₂_map_left_iff, List.forall₂_map_right_iff] at this
    exact this.imp fun _ _ => Eq.symm
  have drained := drain_bounds (vessels v cols) k
  rw [h.drained] at drained
  simp only [vessels, List.forall₂_map_left_iff, List.forall₂_map_right_iff] at drained
  exact columns.mp (fun _ _ hc hd => ⟨hc, hd⟩) drained

theorem Drains.exhausted {v : AppTableColumn → Nat → Vessel}
    {cols cols' : List (AppTableColumn × Nat)}
    {k k' : Nat} (h : Drains v cols k cols' k') (left : 0 < k') :
    ∀ c ∈ cols', (v c.1 c.2).level ≤ (v c.1 c.2).floor := by
  have low : ∀ u ∈ (drain (vessels v cols) k).1, u.level ≤ u.floor :=
    drain_exhausted (by rwa [h.drained])
  rw [h.drained] at low
  exact fun c hc => low _ (List.mem_map_of_mem hc)

/-- What no column is shrunk below: `min_width` and three for a flexible column,
three for any other. -/
def columnFloor (column : AppTableColumn) (width : Nat) : Nat :=
  if column.isFlexible then min (min width column.minWidth) 3 else min width 3

/-- How a clamped width and the width after the first phase are related. -/
def FlexiblyShrunk (c c' : AppTableColumn × Nat) : Prop :=
  c'.1 = c.1 ∧ c'.2 ≤ c.2 ∧ (if c.1.isFlexible then min c.2 c.1.minWidth ≤ c'.2 else c'.2 = c.2)

/-- The same for the second phase. -/
def AnyShrunk (c c' : AppTableColumn × Nat) : Prop := c'.1 = c.1 ∧ c'.2 ≤ c.2 ∧ min c.2 3 ≤ c'.2

/-- The outcome of the shrink loop on `cols` with `overflow`, through the widths
`mid` after the first phase. -/
structure Shrinks (cols mid final : List (AppTableColumn × Nat))
    (overflow k' k'' : Nat) : Prop where
  first : List.Forall₂ FlexiblyShrunk cols mid
  second : List.Forall₂ AnyShrunk mid final
  sum : widthSum final + overflow = widthSum cols + k''
  left_le : k'' ≤ k'
  first_done : 0 < k' → ∀ c ∈ mid, c.1.isFlexible = true → c.2 ≤ c.1.minWidth
  second_done : 0 < k'' → ∀ c ∈ final, c.2 ≤ 3
  unused : k' = 0 → final = mid

theorem Drains.shrinks {cols mid final : List (AppTableColumn × Nat)} {overflow k' k'' : Nat}
    (one : Drains flexibleVessel cols overflow mid k') (two : Drains anyVessel mid k' final k'') :
    Shrinks cols mid final overflow k' k'' := by
  refine ⟨?_, ?_, ?_, ?_, ?_, ?_, ?_⟩
  · apply one.bounds.imp
    rintro c c' ⟨column, _, lo, hi⟩
    refine ⟨column, hi, ?_⟩
    simp only [flexibleVessel, Vessel.bottom] at lo hi
    split
    · rename_i flexible
      simpa [flexible] using lo
    · rename_i rigid
      simp only [rigid, Bool.false_eq_true, ↓reduceIte] at lo
      omega
  · apply two.bounds.imp
    rintro c c' ⟨column, _, lo, hi⟩
    exact ⟨column, hi, lo⟩
  · have := one.sum flexible_phase.level
    have := two.sum any_phase.level
    omega
  · have := drain_le (vessels anyVessel mid) k'
    rwa [two.drained] at this
  · intro left c hc flexible
    have := one.exhausted left c hc
    simpa [flexibleVessel, flexible] using this
  · exact fun left c hc => two.exhausted left c hc
  · rintro rfl
    have := two.drained
    rw [drain_zero] at this
    exact (vessels_injective any_phase two.columns.symm (Prod.mk.inj this).1).symm

theorem shrinkLoop_shrinks (cols : List (AppTableColumn × Nat)) (overflow : Nat) :
    ∃ mid k' k'', Shrinks cols mid (shrinkLoop cols overflow) overflow k' k'' := by
  obtain ⟨mid, k', k'', one, two⟩ := shrinkLoop_drains cols overflow
  exact ⟨mid, k', k'', one.shrinks two⟩

/-- Both phases together stay above the floor. -/
theorem Shrinks.bounds {cols mid final : List (AppTableColumn × Nat)} {o k' k'' : Nat}
    (h : Shrinks cols mid final o k' k'') :
    List.Forall₂ (fun c c' => columnFloor c.1 c.2 ≤ c'.2 ∧ c'.2 ≤ c.2) cols final := by
  refine forall₂_trans ?_ h.first h.second
  rintro c m c' ⟨column, hi, lo⟩ ⟨_, hi', lo'⟩
  unfold columnFloor
  split at lo <;> rename_i flexible
  · simp only [flexible, ↓reduceIte]; omega
  · simp only [flexible, Bool.false_eq_true, ↓reduceIte]; omega

theorem sum_le_of_forall₂ {α : Type} {f g : α → Nat} {xs ys : List α}
    (h : List.Forall₂ (fun x y => f x ≤ g y) xs ys) : (xs.map f).sum ≤ (ys.map g).sum := by
  induction h with
  | nil => exact Nat.le_refl _
  | cons hxy _ ih => simp only [List.map_cons, List.sum_cons]; omega

/-- When overflow is left over, every column is on its floor. -/
theorem Shrinks.floors {cols mid final : List (AppTableColumn × Nat)} {o k' k'' : Nat}
    (h : Shrinks cols mid final o k' k'') (left : 0 < k'') :
    List.Forall₂ (fun c c' => c'.2 ≤ columnFloor c.1 c.2) cols final := by
  have low := forall₂_and_right h.first (h.first_done (Nat.lt_of_lt_of_le left h.left_le))
  have low' := forall₂_and_right h.second (h.second_done left)
  refine forall₂_trans ?_ low low'
  rintro c m c' ⟨⟨column, hi, lo⟩, atMin⟩ ⟨⟨_, hi', _⟩, three⟩
  unfold columnFloor
  split at lo <;> rename_i flexible
  · have := atMin (column ▸ flexible)
    rw [column] at this
    simp only [flexible, ↓reduceIte]; omega
  · simp only [flexible, Bool.false_eq_true, ↓reduceIte]; omega

/-- The overflow is used up, or every column ends on its floor. -/
theorem Shrinks.total {cols mid final : List (AppTableColumn × Nat)} {o k' k'' : Nat}
    (h : Shrinks cols mid final o k' k'') {available gaps : Nat}
    (overflow : available + o = widthSum cols + gaps) :
    widthSum final + gaps = max available (gaps + (cols.map fun c => columnFloor c.1 c.2).sum) := by
  have above : (cols.map fun c => columnFloor c.1 c.2).sum ≤ widthSum final :=
    sum_le_of_forall₂ (h.bounds.imp fun _ _ => And.left)
  have sum := h.sum
  by_cases left : 0 < k''
  · have below : widthSum final ≤ (cols.map fun c => columnFloor c.1 c.2).sum :=
      sum_le_of_forall₂ (h.floors left).flip
    omega
  · omega

/-- A column that cannot shrink was shrunk, or a flexible one below its
`min_width`. -/
def BelowMinimum (column : AppTableColumn) (width width' : Nat) : Prop :=
  if column.isFlexible then width' < min width column.minWidth else width' < width

/-- Only the second phase goes below a minimum, and it starts when the first one
has brought every flexible column down to its own. -/
theorem Shrinks.minima {cols mid final : List (AppTableColumn × Nat)} {o k' k'' : Nat}
    (h : Shrinks cols mid final o k' k'') :
    List.Forall₂ (fun c c' => BelowMinimum c.1 c.2 c'.2 → 0 < k') cols final ∧
    (0 < k' → List.Forall₂ (fun c c' => c.1.isFlexible = true →
      c'.2 ≤ c.1.minWidth) cols final) := by
  constructor
  · by_cases used : k' = 0
    · rw [h.unused used]
      refine h.first.imp fun c m ⟨_, _, lo⟩ below => ?_
      unfold BelowMinimum at below
      split at lo <;> rename_i flexible
      · simp only [flexible, ↓reduceIte] at below; omega
      · simp only [flexible, Bool.false_eq_true, ↓reduceIte] at below; omega
    · refine h.bounds.imp ?_
      intro c c' _ _
      exact Nat.pos_of_ne_zero used
  · intro left
    refine forall₂_trans ?_ (forall₂_and_right h.first (h.first_done left)) h.second
    rintro c m c' ⟨⟨column, _⟩, atMin⟩ ⟨_, hi, _⟩ flexible
    have := atMin (column ▸ flexible)
    rw [column] at this
    omega

namespace AppTable

/-- The columns with the clamped width and the width each is printed with. -/
def outcome (t : AppTable) (available : Nat) : List (AppTableColumn × Nat × Nat) :=
  t.columns.zip (t.clampedWidths.zip (t.finalWidths available))

theorem clampedWidths_length (t : AppTable) : t.clampedWidths.length = t.columns.length := by
  have widths : ∀ (rows : List (List (Option CLib.CString))) (ws : List Nat),
      (∀ cells ∈ rows, cells.length = ws.length) → (rows.foldl widen ws).length = ws.length := by
    intro rows
    induction rows with
    | nil => intro ws _; rfl
    | cons cells rows ih =>
      intro ws h
      obtain ⟨hd, tl⟩ := List.forall_mem_cons.1 h
      have step : (widen ws cells).length = ws.length := by simp [widen, hd]
      rw [List.foldl_cons, ih _ (by rwa [step]), step]
  have natural : t.naturalWidths.length = t.columns.length := by
    have header : t.headerWidths.length = t.columns.length := by simp [headerWidths]
    rw [naturalWidths, widths _ _ (by rw [header]; exact t.cells_length), header]
  simp [clampedWidths, natural]

theorem widen_getElem {ws : List Nat} {cells : List (Option CLib.CString)} {j w : Nat}
    {cell : Option CLib.CString} (width : ws[j]? = some w) (there : cells[j]? = some cell) :
    (widen ws cells)[j]? = some (max w (orEmpty cell).length) := by
  simp only [widen, List.getElem?_zipWith, width, there, Option.some.injEq]
  split
  · omega
  · omega

/-- The loop over the rows leaves a column as wide as its longest text. -/
theorem foldl_widen {rows : List (List (Option CLib.CString))} {ws : List Nat} {j w : Nat}
    (whole : ∀ row ∈ rows, j < row.length) (width : ws[j]? = some w) :
    ∃ w', (rows.foldl widen ws)[j]? = some w' ∧ w ≤ w' ∧
      (∀ row ∈ rows, ∀ cell, row[j]? = some cell → (orEmpty cell).length ≤ w') ∧
      (w' = w ∨ ∃ row ∈ rows, ∃ cell, row[j]? = some cell ∧ (orEmpty cell).length = w') := by
  induction rows generalizing ws w with
  | nil => exact ⟨w, width, Nat.le_refl _, by simp, .inl rfl⟩
  | cons row rows ih =>
    obtain ⟨inside, whole'⟩ := List.forall_mem_cons.1 whole
    have there := List.getElem?_eq_getElem inside
    obtain ⟨w', final, larger, others, reached⟩ := ih whole' (widen_getElem width there)
    refine ⟨w', final, by omega, List.forall_mem_cons.2 ⟨?_, others⟩, ?_⟩
    · intro cell found
      rw [there] at found
      rw [← Option.some.inj found]
      omega
    · rcases reached with same | ⟨row', later, cell, found, longest⟩
      · by_cases wider : (orEmpty row[j]).length ≤ w
        · exact .inl (by omega)
        · exact .inr ⟨row, List.mem_cons_self, _, there, by omega⟩
      · exact .inr ⟨row', List.mem_cons_of_mem _ later, cell, found, longest⟩

/-- The lengths of the texts of column `j`, the header first. -/
def textLengths (t : AppTable) (j : Nat) : List Nat :=
  (t.columns[j]?.bind (·.header) :: t.rows.map (·.getD j none)).map fun text =>
    (orEmpty text).length

/-- The width of the longest text of column `j`, between the least and the largest
width of the column. A largest width of 0 is none, and any other one wins. -/
def IsClamped (t : AppTable) (j : Nat) (c : AppTableColumn) (w : Nat) : Prop :=
  ∃ longest ∈ t.textLengths j, (∀ n ∈ t.textLengths j, n ≤ longest) ∧
    w = if c.maxWidth = 0 then max longest c.minWidth else min (max longest c.minWidth) c.maxWidth

theorem isClamped_clampedWidths {t : AppTable} {j w : Nat} {c : AppTableColumn}
    (column : t.columns[j]? = some c) (width : t.clampedWidths[j]? = some w) :
    t.IsClamped j c w := by
  have inside := (List.getElem?_eq_some_iff.1 column).1
  have header : t.headerWidths[j]? = some (orEmpty c.header).length := by
    simp [headerWidths, column]
  obtain ⟨longest, natural, larger, cells, reached⟩ := foldl_widen
    (fun row member => by rw [t.cells_length row member]; exact inside) header
  have clamped : t.clampedWidths[j]? = some (appTableClampWidth longest c) := by
    simp [clampedWidths, List.getElem?_zipWith, naturalWidths, natural, column]
  have cell (row : List (Option CLib.CString)) (member : row ∈ t.rows) :
      row[j]? = some (row.getD j none) := by
    have there : j < row.length := by rw [t.cells_length row member]; exact inside
    simp [List.getD_eq_getElem?_getD, List.getElem?_eq_getElem there]
  have texts (n : Nat) : n ∈ t.textLengths j ↔ n = (orEmpty c.header).length ∨
      ∃ row ∈ t.rows, n = (orEmpty (row.getD j none)).length := by
    simp [textLengths, column, eq_comm]
  refine ⟨longest, (texts _).2 ?_, fun n there => ?_, ?_⟩
  · rcases reached with same | ⟨row, member, text, found, same⟩
    · exact .inl same
    · rw [cell row member] at found
      exact .inr ⟨row, member, by rw [Option.some.inj found, same]⟩
  · rcases (texts n).1 there with rfl | ⟨row, member, rfl⟩
    · exact larger
    · exact cells row member _ (cell row member)
  · rw [clamped] at width
    rw [← Option.some.inj width, appTableClampWidth_eq]

theorem gaps_eq (t : AppTable) : t.gaps = 2 * (t.columns.length - 1) := by
  unfold gaps appTableColumnGap
  split <;> omega

/-- Where the table fits, the loop has nothing to do. -/
theorem finalWidths_eq (t : AppTable) (available : Nat) : t.finalWidths available =
    (shrinkLoop (t.columns.zip t.clampedWidths) (t.clampedWidths.sum + t.gaps - available)).map
      Prod.snd := by
  unfold finalWidths
  dsimp only
  split
  · rfl
  · rename_i fits
    have zero : t.clampedWidths.sum + t.gaps - available = 0 := by omega
    rw [zero, shrinkLoop, if_neg (Nat.lt_irrefl 0),
      List.map_snd_zip (Nat.le_of_eq t.clampedWidths_length)]

/-- The shrink loop read off the table. -/
theorem exists_shrinks (t : AppTable) (available : Nat) :
    ∃ mid final k' k'', Shrinks (t.columns.zip t.clampedWidths) mid final
        (t.clampedWidths.sum + t.gaps - available) k' k'' ∧
      t.finalWidths available = final.map Prod.snd := by
  obtain ⟨mid, k', k'', h⟩ := shrinkLoop_shrinks (t.columns.zip t.clampedWidths)
    (t.clampedWidths.sum + t.gaps - available)
  exact ⟨mid, _, k', k'', h, t.finalWidths_eq available⟩

/-- A relation between clamped and final widths, read at an entry of the outcome. -/
theorem forall₂_mem_outcome {R : AppTableColumn × Nat → AppTableColumn × Nat → Prop}
    {cs : List AppTableColumn} {ws : List Nat} {final : List (AppTableColumn × Nat)}
    (h : List.Forall₂ R (cs.zip ws) final) {c : AppTableColumn} {w w' : Nat}
    (mem : (c, w, w') ∈ cs.zip (ws.zip (final.map Prod.snd))) : ∃ c', R (c, w) (c', w') := by
  induction cs generalizing ws final with
  | nil => simp at mem
  | cons c₀ cs ih =>
    cases ws with
    | nil => simp at mem
    | cons w₀ ws =>
      cases h with
      | cons hd tl =>
        rename_i x final
        simp only [List.map_cons, List.zip_cons_cons, List.mem_cons] at mem
        rcases mem with heq | mem
        · cases heq; exact ⟨x.1, hd⟩
        · exact ih tl mem

end AppTable

/-- **The widths of a rendered table.** The clamped widths are those of the longest
texts, kept between the bounds of their columns. The loop ends for every available
width.
The total width is the clamped one when that fits, and otherwise the larger of
the available width and what the floors need; every width ends between its floor
and its clamped width; and no column goes below its minimum while a flexible
column is still above its own. -/
theorem app_table_widths (t : AppTable) (available : Nat) :
    let clampedTotal := t.clampedWidths.sum + 2 * (t.columns.length - 1)
    let finalTotal := (t.finalWidths available).sum + 2 * (t.columns.length - 1)
    let floors := (List.zipWith columnFloor t.columns t.clampedWidths).sum
    (∀ j c w, t.columns[j]? = some c → t.clampedWidths[j]? = some w → t.IsClamped j c w) ∧
    (t.outcome available).length = t.columns.length ∧
    finalTotal = (if clampedTotal ≤ available then clampedTotal
      else max available (2 * (t.columns.length - 1) + floors)) ∧
    (∀ c w w', (c, w, w') ∈ t.outcome available → columnFloor c w ≤ w' ∧ w' ≤ w) ∧
    ((∃ c w w', (c, w, w') ∈ t.outcome available ∧ BelowMinimum c w w') →
      ∀ c w w', (c, w, w') ∈ t.outcome available → c.isFlexible = true → w' ≤ c.minWidth) := by
  obtain ⟨mid, final, k', k'', h, widths⟩ := t.exists_shrinks available
  have bounds := h.bounds
  have cols_sum : widthSum (t.columns.zip t.clampedWidths) = t.clampedWidths.sum := by
    rw [widthSum, List.map_snd_zip (Nat.le_of_eq t.clampedWidths_length)]
  have final_sum : (t.finalWidths available).sum = widthSum final := by rw [widths]; rfl
  have floors : (List.zipWith columnFloor t.columns t.clampedWidths).sum =
      ((t.columns.zip t.clampedWidths).map fun c => columnFloor c.1 c.2).sum := by
    rw [← List.map_uncurry_zip_eq_zipWith]; rfl
  have gaps := t.gaps_eq
  dsimp only
  refine ⟨fun _ _ _ => AppTable.isClamped_clampedWidths, ?_, ?_, ?_, ?_⟩
  · have := bounds.length_eq
    simp only [List.length_zip, t.clampedWidths_length, Nat.min_self] at this
    simp [AppTable.outcome, t.clampedWidths_length, widths, ← this]
  · rw [final_sum, floors, ← gaps]
    split
    · rename_i fits
      have sum := h.sum
      have left := h.left_le
      have upper : widthSum final ≤ widthSum (t.columns.zip t.clampedWidths) :=
        sum_le_of_forall₂ (bounds.imp fun _ _ => And.right).flip
      omega
    · rename_i wide
      exact h.total (by rw [cols_sum]; omega)
  · intro c w w' mem
    rw [AppTable.outcome, widths] at mem
    exact (AppTable.forall₂_mem_outcome bounds mem).elim fun _ => id
  · rintro ⟨c, w, w', mem, below⟩ d u u' mem' flexible
    rw [AppTable.outcome, widths] at mem mem'
    obtain ⟨_, started⟩ := AppTable.forall₂_mem_outcome h.minima.1 mem
    obtain ⟨_, done⟩ := AppTable.forall₂_mem_outcome (h.minima.2 (started below)) mem'
    exact done flexible

end BeastieBoy
