import BeastieBoy.SpanTrace

/-!
# Showing the SPAN table

`boy_show_span` joins its three dumps into the rows of one table. `spanRows` is
that join with nothing to allocate: the entries of each candidate in the order of
the dumps, or one row of stars.
-/

namespace BeastieBoy

open CLib Interact Interact.Prog

abbrev SpanRow := List (Option CString)

def spanEntryRow (interfaces : List BoyInterfaceEntry) (ifEntry : BoyInterfaceEntry)
    (entry : BoySpanEntry) : SpanRow :=
  spanRow ifEntry (boyFindInterfaceName interfaces entry.swIfIndexTo)
    (if entry.isL2 then "*".toList else boySpanStateDevice entry.state)
    (boySpanStateL2 entry.state entry.isL2)

def noSpanEntryRow (ifEntry : BoyInterfaceEntry) : SpanRow :=
  spanRow ifEntry "*".toList "*".toList "*".toList

def ownSpanEntries (entries : List BoySpanEntry) (ifEntry : BoyInterfaceEntry) :
    List BoySpanEntry :=
  entries.filter (·.swIfIndexFrom = ifEntry.swIfIndex)

/-- The rows of one candidate. -/
def candidateRows (interfaces : List BoyInterfaceEntry) (entries : List BoySpanEntry)
    (ifEntry : BoyInterfaceEntry) : List SpanRow :=
  if ownSpanEntries entries ifEntry = [] then [noSpanEntryRow ifEntry]
  else (ownSpanEntries entries ifEntry).map (spanEntryRow interfaces ifEntry)

def spanRows (interfaces : List BoyInterfaceEntry) (entries : List BoySpanEntry) : List SpanRow :=
  (interfaces.filter boyIsSpanSourceCandidate).flatMap (candidateRows interfaces entries)

/-! ## A row more -/

theorem quiet_appTableStrdup (cell : Option CString) :
    Quiet (fun o => ∀ copy, o = some copy → copy = orEmpty cell) (appTableStrdup cell) := by
  apply (quiet_call rfl).bind
  intro granted _
  split
  · exact fun copy h => (Option.some.inj h).symm
  · exact fun copy h => nomatch h

/-- The text of each cell, where the C array has one. -/
theorem quiet_appTableCopyCells (cells : List (Option CString)) :
    Quiet (fun o => ∀ copies, o = some copies → copies = cells.map fun cell => some (orEmpty cell))
      (appTableCopyCells cells) := by
  induction cells with
  | nil =>
    intro copies h
    exact (Option.some.inj h).symm
  | cons cell cells ih =>
    apply (quiet_appTableStrdup cell).bind
    intro o ho
    cases o with
    | none => exact fun copies h => nomatch h
    | some copy =>
      apply ih.bind
      intro o' ho'
      cases o' with
      | none => exact fun copies h => nomatch h
      | some copies =>
        intro all h
        rw [← Option.some.inj h, ho copy rfl, ho' copies rfl]
        rfl

theorem quiet_appTableInit (columns : List AppTableColumn) :
    Quiet (fun o => ∀ table, o = some table → table.columns = columns ∧ table.rows = [])
      (appTableInit columns) := by
  unfold appTableInit
  split
  · intro table h
    cases h
  · apply (quiet_call rfl).bind
    intro granted _
    split
    · intro table h
      cases h
      exact ⟨rfl, rfl⟩
    · intro table h
      cases h

/-- `table` with these rows behind its own. -/
def AppTable.Extends (table' table : AppTable) (rows : List (List (Option CString))) : Prop :=
  table'.columns = table.columns ∧ table'.rows = table.rows ++ rows

theorem AppTable.Extends.trans {t₁ t₂ t₃ : AppTable} {rows rows' : List (List (Option CString))}
    (h : t₂.Extends t₁ rows) (h' : t₃.Extends t₂ rows') : t₃.Extends t₁ (rows ++ rows') := by
  refine ⟨h'.1.trans h.1, ?_⟩
  rw [h'.2, h.2, List.append_assoc]

theorem AppTable.extends_refl (table : AppTable) : table.Extends table [] := ⟨rfl, by simp⟩

theorem cellsRead_of_length {n : Nat} {cells : List (Option CString)} (h : cells.length = n) :
    cellsRead n cells = cells := by
  apply List.ext_getElem
  · simp [cellsRead, h]
  · intro i _ hi
    simp [cellsRead, List.getD_eq_getElem?_getD, List.getElem?_eq_getElem hi]

/-- A row is added with the texts of its cells, or nothing is. -/
theorem quiet_appTableAddRow (table : AppTable) (cells : List (Option CString)) :
    Quiet (fun r => r.1 = 0 ∧ r.2.Extends table
          [(cellsRead table.columns.length cells).map fun cell => some (orEmpty cell)] ∨
        r.1 = -1 ∧ r.2.Extends table []) (appTableAddRow table cells) := by
  have kept (rowCapacity : Nat) : (table.withCapacity rowCapacity).Extends table [] :=
    ⟨rfl, by simp [AppTable.withCapacity]⟩
  apply (quiet_reserve _ _ _).bind
  intro reserved _
  split
  · exact .inr ⟨rfl, table.extends_refl⟩
  · apply (quiet_call rfl).bind
    intro granted _
    split
    · apply (quiet_appTableCopyCells _).bind
      intro o ho
      cases o with
      | none => exact .inr ⟨rfl, kept _⟩
      | some copies =>
        have whole : cellsRead table.columns.length copies = copies := by
          apply cellsRead_of_length
          simp [ho copies rfl, cellsRead]
        refine .inl ⟨rfl, rfl, ?_⟩
        rw [← ho copies rfl, ← whole]
        simp [AppTable.addRow, whole]
    · exact .inr ⟨rfl, kept _⟩

/-! ## The loops -/

/-- An attempt at a table that, if it succeeds, has these rows behind those of
`table`. -/
abbrev Appends (table : AppTable) (rows : List SpanRow) (o : Option AppTable) : Prop :=
  ∀ table', o = some table' → table'.Extends table rows

/-- A row behind those of the table, or the message that it could not be added. -/
theorem quiet_rowOrCleanup {table : AppTable} {cells : SpanRow}
    (whole : cells.length = table.columns.length) (message : String) :
    Quiet (Appends table [cells.map fun cell => some (orEmpty cell)])
      (do
        let added ← appTableAddRow table cells
        if added.1 ≠ 0 then
          boyLog .error message []
          pure none
        else
          pure (some added.2)) := by
  apply (quiet_appTableAddRow _ _).bind
  intro added hadded
  split
  · apply (quiet_error _ _).bind
    intro _ _ table' h
    cases h
  · rename_i zero
    rw [not_not] at zero
    rcases hadded with ⟨_, extends_⟩ | ⟨failed, _⟩
    · intro table' h
      rw [cellsRead_of_length whole] at extends_
      exact Option.some.inj h ▸ extends_
    · simp [failed] at zero

/-- An empty table, or the message that there is none. -/
theorem quiet_tableOrCleanup (columns : List AppTableColumn) (message : String) :
    Quiet (fun o => ∀ table, o = some table → table.columns = columns ∧ table.rows = [])
      (do
        match ← appTableInit columns with
        | none =>
          boyLog .error message []
          pure none
        | some table => pure (some table)) := by
  apply (quiet_appTableInit columns).bind
  intro o fresh
  cases o with
  | none =>
    apply (quiet_error _ _).bind
    intro _ _ table h
    cases h
  | some table => exact fresh

theorem quiet_showSpanRow {table : AppTable} (seven : table.columns.length = 7)
    (ifEntry : BoyInterfaceEntry) (destination device l2 : CString) :
    Quiet (Appends table [spanRow ifEntry destination device l2])
      (showSpanRow table ifEntry destination device l2).run := by
  have whole : (spanRow ifEntry destination device l2).length = table.columns.length := seven.symm
  exact quiet_rowOrCleanup whole _

theorem quiet_showSpanEntries {interfaces : List BoyInterfaceEntry} {ifEntry : BoyInterfaceEntry}
    (entries : List BoySpanEntry) {table : AppTable} (seven : table.columns.length = 7)
    (found : Bool) :
    Quiet (fun o => ∀ shown, o = some shown →
        shown.1.Extends table
          ((ownSpanEntries entries ifEntry).map (spanEntryRow interfaces ifEntry)) ∧
        (shown.2 = true ↔ found = true ∨ ownSpanEntries entries ifEntry ≠ []))
      (showSpanEntries interfaces ifEntry entries table found).run := by
  induction entries generalizing table found with
  | nil =>
    intro shown h
    rw [← Option.some.inj h]
    exact ⟨table.extends_refl, by simp [ownSpanEntries]⟩
  | cons entry entries ih =>
    unfold showSpanEntries
    split
    · rename_i other
      have skipped : ownSpanEntries (entry :: entries) ifEntry = ownSpanEntries entries ifEntry :=
        List.filter_cons_of_neg (by simp [other])
      rw [skipped]
      exact ih seven found
    · rename_i own
      rw [not_not] at own
      have taken : ownSpanEntries (entry :: entries) ifEntry =
        entry :: ownSpanEntries entries ifEntry :=
        List.filter_cons_of_pos (by simp [own])
      apply Only.attempt (quiet_showSpanRow seven _ _ _ _)
      · exact fun _ _ h => nomatch h
      intro table' added
      have grown := added table' rfl
      apply (ih (by rw [grown.1, seven]) true).mono (fun _ h => h)
      intro o ho shown h
      obtain ⟨rest, flag⟩ := ho shown h
      rw [taken]
      exact ⟨grown.trans rest, by simp [flag]⟩

theorem quiet_showNoSpanEntry {ifEntry : BoyInterfaceEntry} {shown : AppTable × Bool}
    (seven : shown.1.columns.length = 7) :
    Quiet (Appends shown.1 (if shown.2 then [] else [noSpanEntryRow ifEntry]))
      (showNoSpanEntry ifEntry shown).run := by
  unfold showNoSpanEntry
  split
  · rename_i found
    intro table' h
    rw [← Option.some.inj h]
    exact shown.1.extends_refl
  · exact quiet_showSpanRow seven _ _ _ _

/-- The rows of the loop, and the row of stars when there are none. -/
theorem extends_candidateRows {interfaces : List BoyInterfaceEntry} {entries : List BoySpanEntry}
    {ifEntry : BoyInterfaceEntry} {table table' : AppTable} {shown : AppTable × Bool}
    (grown : shown.1.Extends table
      ((ownSpanEntries entries ifEntry).map (spanEntryRow interfaces ifEntry)))
    (found : shown.2 = true ↔ false = true ∨ ownSpanEntries entries ifEntry ≠ [])
    (last : table'.Extends shown.1 (if shown.2 then [] else [noSpanEntryRow ifEntry])) :
    table'.Extends table (candidateRows interfaces entries ifEntry) := by
  unfold candidateRows
  by_cases none : ownSpanEntries entries ifEntry = []
  · have missing : shown.2 = false := by simpa [none] using found
    rw [missing] at last
    rw [none] at grown
    rw [if_pos none]
    exact grown.trans last
  · have present : shown.2 = true := found.2 (.inr none)
    rw [present] at last
    rw [if_neg none]
    simpa using grown.trans last

theorem quiet_showSpanInterfaces {interfaces : List BoyInterfaceEntry} {entries : List BoySpanEntry}
    (rest : List BoyInterfaceEntry) {table : AppTable} (seven : table.columns.length = 7) :
    Quiet (Appends table
      ((rest.filter boyIsSpanSourceCandidate).flatMap (candidateRows interfaces entries)))
      (showSpanInterfaces interfaces entries rest table).run := by
  induction rest generalizing table with
  | nil =>
    intro table' h
    rw [← Option.some.inj h]
    exact table.extends_refl
  | cons ifEntry rest ih =>
    unfold showSpanInterfaces
    split
    · rename_i other
      rw [List.filter_cons_of_neg other]
      exact ih seven
    · rename_i candidate
      rw [not_not] at candidate
      rw [List.filter_cons_of_pos candidate, List.flatMap_cons]
      apply Only.attempt (quiet_showSpanEntries entries seven false)
      · exact fun _ _ h => nomatch h
      intro shown hshown
      obtain ⟨grown, found⟩ := hshown shown rfl
      have seven' : shown.1.columns.length = 7 := by rw [grown.1, seven]
      apply Only.attempt (quiet_showNoSpanEntry seven')
      · exact fun _ _ h => nomatch h
      intro table' htable'
      have own := extends_candidateRows grown found (htable' table' rfl)
      apply (ih (by rw [own.1, seven])).mono (fun _ h => h)
      intro o ho table'' h
      exact own.trans (ho table'' h)

theorem quiet_showSpanTable :
    Quiet (fun o => ∀ table, o = some table → table.columns = spanColumns ∧ table.rows = [])
      showSpanTable.run := quiet_tableOrCleanup _ _

/-! ## The command -/

/-- The table that `app_table_render` is called for, whether it is printed or not. -/
def renderedTable : BoyEvent → Option AppTable
  | ⟨.appTableRender table _, _⟩ => some table
  | _ => none

theorem renderedTable_unseen (e : BoyEvent) (hidden : e.call.visible = false) :
    renderedTable e = none := by
  obtain ⟨c, r⟩ := e
  cases c with
  | appTableRender => cases hidden
  | _ => rfl

theorem renderedTable_visible (tr : List BoyEvent) :
    (visible tr).filterMap renderedTable = tr.filterMap renderedTable :=
  filterMap_visible renderedTable_unseen tr

/-- A run of `boy_show_span` renders nothing and returns 1, or it renders the
join of its dumps and returns 0. -/
theorem follows_boyShowSpan {tr : List BoyEvent} {rc : Int} (h : Follows boyShowSpan tr rc) :
    rc = 1 ∧ tr.filterMap renderedTable = [] ∨
      rc = 0 ∧ ∃ ifs dev l2 table widths,
        visible tr = [⟨.swInterfaceDump, ifs⟩, ⟨.swInterfaceSpanDump false, dev⟩,
          ⟨.swInterfaceSpanDump true, l2⟩, ⟨.appTableRender table widths, ()⟩] ∧
        (¬ ifs.Failed ∧ ¬ dev.Failed ∧ ¬ l2.Failed) ∧ table.columns = spanColumns ∧
        table.rows = spanRows (ifs.details.map interfaceEntry)
          ((dev.details ++ l2.details).map spanEntry) := by
  rw [← renderedTable_visible]
  rcases follows_withVapi h with ⟨nothing, rfl, _⟩ | ⟨t, finished, seen, _, body, rfl⟩
  · exact .inl ⟨rfl, by rw [nothing]; rfl⟩
  rw [seen]
  rcases follows_collectAll body with
    ⟨dumps, rfl⟩ | ⟨ifs, dev, l2, interfaces, entries, t₁, dumped, complete, listed, listed', rest⟩
  · refine .inl ⟨rfl, ?_⟩
    rw [renderedTable_visible,
      dumps.filterMap_eq_nil renderedTable_unseen (fun _ => rfl) fun _ _ => rfl]
  rw [dumped]
  rcases follows_attempt_iff.1 rest with ⟨no, rfl⟩ | ⟨t₂, table, t₃, rfl, made, rest⟩
  · left
    refine ⟨rfl, ?_⟩
    rw [(visible_of_quiet no quiet_showSpanTable).1]
    rfl
  obtain ⟨quiet, fresh⟩ := visible_of_quiet made quiet_showSpanTable
  obtain ⟨columns, noRows⟩ := fresh table rfl
  have seven : table.columns.length = 7 := by
    rw [columns]
    rfl
  rcases follows_attempt_iff.1 rest with ⟨no, rfl⟩ | ⟨t₄, table', t₅, rfl, filled, rest⟩
  · left
    refine ⟨rfl, ?_⟩
    rw [visible_append, quiet, (visible_of_quiet no (quiet_showSpanInterfaces _ seven)).1]
    rfl
  obtain ⟨quiet', grown⟩ := visible_of_quiet filled (quiet_showSpanInterfaces _ seven)
  obtain ⟨_, rfl, rendering⟩ := follows_lift_iff.1 rest
  obtain ⟨widths, rendered⟩ := follows_runAppTableRender rendering
  have shown : visible t₅ = [⟨.appTableRender table' widths, ()⟩] := by
    rcases rendered with rfl | rfl
    · rfl
    · rfl
  obtain ⟨columns', rows⟩ := grown table' rfl
  refine .inr ⟨rfl, ifs, dev, l2, table', widths, ?_, complete, columns'.trans columns, ?_⟩
  · rw [visible_append, visible_append, quiet, quiet', shown]
    rfl
  · rw [rows, noRows, listed, listed']
    rfl

end BeastieBoy
