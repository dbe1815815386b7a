import BeastieBoy.BoyCommandLine
import BeastieBoy.BoyOutput
import BeastieBoy.SpanMirror
import BeastieBoy.TableCaps

/-!
# Reading the SPAN table off the output

In a terminal that is wide enough, the lines that `boy --show-span` prints tell
what VPP mirrors: from the state of VPP to the text and back.
-/

namespace BeastieBoy

open CLib Interact

/-! ## A line of the output -/

/-- What a line says: a source, the name of a destination, a layer and a state. -/
structure SpanLine where
  swIfIndex : UInt32
  destination : CString
  isL2 : Bool
  state : SpanState
  deriving DecidableEq

/-- The line of a source without a mirror says nothing. -/
def readSpanLine : List CString → Option SpanLine
  | [_, ifIndex, _, _, destination, device, l2] => do
    let swIfIndex ← ifIndexArgument ifIndex
    let told ← readSpanCells device l2
    pure ⟨swIfIndex, destination, told.1, told.2⟩
  | _ => none

def readSpanText (text : CString) : List SpanLine :=
  match decodeTable (spanColumns.map (·.align)) text with
  | some contents => contents.2.filterMap readSpanLine
  | none => []

/-- The states that a mirror may have. -/
def Mirroring (state : SpanState) : Prop := state ∈ [.rx, .tx, .rxTx]

instance (state : SpanState) : Decidable (Mirroring state) := inferInstanceAs (Decidable (_ ∈ _))

def spanLine (interfaces : List BoyInterfaceEntry) (entry : BoySpanEntry) : SpanLine :=
  ⟨entry.swIfIndexFrom, boyFindInterfaceName interfaces entry.swIfIndexTo, entry.isL2, entry.state⟩

theorem readSpanState_of_not_mirroring {state : SpanState} (other : ¬ Mirroring state) :
    readSpanState (boySpanStateDevice state) = none := by
  cases state with
  | disabled => rfl
  | rx => exact absurd (by decide) other
  | tx => exact absurd (by decide) other
  | rxTx => exact absurd (by decide) other
  | other code => rfl

/-- The two cells of an entry that mirrors nothing tell nothing. -/
theorem readSpanCells_of_not_mirroring (interfaces : List BoyInterfaceEntry)
    (ifEntry : BoyInterfaceEntry) {entry : BoySpanEntry} (other : ¬ Mirroring entry.state) :
    readSpanCells (deviceCell (spanEntryRow interfaces ifEntry entry))
      (l2Cell (spanEntryRow interfaces ifEntry entry)) = none := by
  have read := readSpanState_of_not_mirroring other
  have star : readSpanState "*".toList = none := rfl
  have device : deviceCell (spanEntryRow interfaces ifEntry entry) =
      if entry.isL2 then "*".toList else boySpanStateDevice entry.state := rfl
  have l2 : l2Cell (spanEntryRow interfaces ifEntry entry) =
      if entry.isL2 then boySpanStateDevice entry.state else "*".toList := rfl
  rw [device, l2]
  cases entry.isL2 with
  | true => simp only [↓reduceIte, readSpanCells, read, star]
  | false => simp only [Bool.false_eq_true, ↓reduceIte, readSpanCells, read, star]

theorem readSpanLine_spanEntryRow (interfaces : List BoyInterfaceEntry)
    {ifEntry : BoyInterfaceEntry}
    {entry : BoySpanEntry} (own : entry.swIfIndexFrom = ifEntry.swIfIndex) :
    readSpanLine ((spanEntryRow interfaces ifEntry entry).map orEmpty) =
      if Mirroring entry.state then some (spanLine interfaces entry) else none := by
  have index : ifIndexArgument (formatU ifEntry.swIfIndex) = some ifEntry.swIfIndex :=
    ifIndexArgument_text _
  have cells : readSpanLine ((spanEntryRow interfaces ifEntry entry).map orEmpty) =
      (ifIndexArgument (formatU ifEntry.swIfIndex)).bind fun swIfIndex =>
        (readSpanCells (deviceCell (spanEntryRow interfaces ifEntry entry))
          (l2Cell (spanEntryRow interfaces ifEntry entry))).bind fun told =>
            some ⟨swIfIndex, boyFindInterfaceName interfaces entry.swIfIndexTo, told.1, told.2⟩ :=
          rfl
  rw [cells, index]
  split
  · rename_i mirroring
    rw [readSpanCells_spanEntryRow interfaces ifEntry mirroring, spanLine, own]
    rfl
  · rename_i other
    rw [readSpanCells_of_not_mirroring interfaces ifEntry other]
    rfl

theorem readSpanLine_noSpanEntryRow (ifEntry : BoyInterfaceEntry) :
    readSpanLine ((noSpanEntryRow ifEntry).map orEmpty) = none := by
  have cells : readSpanLine ((noSpanEntryRow ifEntry).map orEmpty) =
      (ifIndexArgument (formatU ifEntry.swIfIndex)).bind fun _ => none := rfl
  rw [cells, Option.bind_fun_none]

/-- The rows say what the entries of the candidates are. -/
theorem mem_spanLines_iff {interfaces : List BoyInterfaceEntry} {entries : List BoySpanEntry}
    {line : SpanLine} :
    line ∈ ((spanRows interfaces entries).map (·.map orEmpty)).filterMap readSpanLine ↔
      ∃ ifEntry ∈ interfaces, boyIsSpanSourceCandidate ifEntry = true ∧
        ∃ entry ∈ entries, entry.swIfIndexFrom = ifEntry.swIfIndex ∧ Mirroring entry.state ∧
          line = spanLine interfaces entry := by
  rw [List.filterMap_map, List.mem_filterMap]
  constructor
  · rintro ⟨row, there, read⟩
    obtain ⟨ifEntry, candidate, mine⟩ := List.mem_flatMap.1 there
    obtain ⟨inside, candidate⟩ := List.mem_filter.1 candidate
    refine ⟨ifEntry, inside, candidate, ?_⟩
    unfold candidateRows at mine
    split at mine
    · rw [List.mem_singleton.1 mine, Function.comp_apply, readSpanLine_noSpanEntryRow] at read
      cases read
    · obtain ⟨entry, owned, rfl⟩ := List.mem_map.1 mine
      obtain ⟨dumped, own⟩ := List.mem_filter.1 owned
      have own := of_decide_eq_true own
      rw [Function.comp_apply, readSpanLine_spanEntryRow interfaces own] at read
      split at read
      · rename_i mirroring
        exact ⟨entry, dumped, own, mirroring, (Option.some.inj read).symm⟩
      · cases read
  · rintro ⟨ifEntry, inside, candidate, entry, dumped, own, mirroring, rfl⟩
    have owned : entry ∈ ownSpanEntries entries ifEntry :=
      List.mem_filter.2 ⟨dumped, decide_eq_true own⟩
    refine ⟨spanEntryRow interfaces ifEntry entry, ?_, ?_⟩
    · apply List.mem_flatMap.2
      refine ⟨ifEntry, List.mem_filter.2 ⟨inside, candidate⟩, ?_⟩
      rw [candidateRows, if_neg (List.ne_nil_of_mem owned)]
      exact List.mem_map_of_mem owned
    · rw [Function.comp_apply, readSpanLine_spanEntryRow interfaces own, if_pos mirroring]

/-! ## The width -/

section Widths
variable {bounds ws : List Nat}

/-- A row within these bounds. -/
abbrev RowWithin (bounds : List Nat) (row : List (Option CString)) : Prop :=
  List.Forall₂ (fun cell bound => (orEmpty cell).length ≤ bound) row bounds

theorem widen_within {row : List (Option CString)} (h : List.Forall₂ (· ≤ ·) ws bounds)
    (within : RowWithin bounds row) :
    List.Forall₂ (· ≤ ·) (AppTable.widen ws row) bounds := by
  induction h generalizing row with
  | nil =>
    cases within
    exact .nil
  | cons width _ ih =>
    cases within with
    | cons cell rest =>
      refine .cons ?_ (ih rest)
      dsimp only
      split
      · exact cell
      · exact width

theorem foldl_widen_within {rows : List (List (Option CString))}
    (h : List.Forall₂ (· ≤ ·) ws bounds) (within : ∀ row ∈ rows, RowWithin bounds row) :
    List.Forall₂ (· ≤ ·) (rows.foldl AppTable.widen ws) bounds := by
  induction rows generalizing ws with
  | nil => exact h
  | cons row rows ih =>
    obtain ⟨first, others⟩ := List.forall_mem_cons.1 within
    exact ih (widen_within h first) others

theorem appTableClampWidth_le {column : AppTableColumn} {width bound : Nat}
    (least : column.minWidth ≤ bound)
    (h : width ≤ bound) : appTableClampWidth width column ≤ bound := by
  rw [appTableClampWidth_eq]
  split
  · omega
  · omega

/-- The headers and the least widths of the columns within these bounds. -/
abbrev ColumnsWithin (bounds : List Nat) (columns : List AppTableColumn) : Prop :=
  List.Forall₂
    (fun column bound => (orEmpty column.header).length ≤ bound ∧ column.minWidth ≤ bound)
    columns bounds

theorem clamped_within {columns : List AppTableColumn} (h : List.Forall₂ (· ≤ ·) ws bounds)
    (within : ColumnsWithin bounds columns) :
    List.Forall₂ (· ≤ ·) (List.zipWith appTableClampWidth ws columns) bounds := by
  induction within generalizing ws with
  | nil =>
    cases h
    exact .nil
  | cons column _ ih =>
    cases h with
    | cons width rest => exact .cons (appTableClampWidth_le column.2 width) (ih rest)

/-- No column is wider than a bound on its texts. -/
theorem sum_clampedWidths_le {t : AppTable} (columns : ColumnsWithin bounds t.columns)
    (rows : ∀ row ∈ t.rows, RowWithin bounds row) : t.clampedWidths.sum ≤ bounds.sum := by
  have start : List.Forall₂ (· ≤ ·) t.headerWidths bounds := by
    rw [AppTable.headerWidths, List.forall₂_map_left_iff]
    exact columns.imp fun _ _ h => h.1
  have clamped : List.Forall₂ (· ≤ ·) t.clampedWidths bounds :=
    clamped_within (foldl_widen_within start rows) columns
  exact clamped.sum_le_sum

end Widths

/-- The longest of these texts, and at least so wide. -/
def longest (least : Nat) (texts : List CString) : Nat :=
  texts.foldr (fun text n => max text.length n) least

theorem least_le_longest (least : Nat) (texts : List CString) : least ≤ longest least texts := by
  induction texts with
  | nil => exact Nat.le_refl _
  | cons text texts ih => exact ih.trans (Nat.le_max_right _ _)

theorem length_le_longest {least : Nat} {texts : List CString} {text : CString}
    (there : text ∈ texts) :
    text.length ≤ longest least texts := by
  induction there with
  | head => exact Nat.le_max_left _ _
  | tail _ _ ih => exact ih.trans (Nat.le_max_right _ _)

theorem longest_le {least bound : Nat} {texts : List CString} (start : least ≤ bound)
    (within : ∀ text ∈ texts, text.length ≤ bound) : longest least texts ≤ bound := by
  induction texts with
  | nil => exact start
  | cons text texts ih =>
    have rest := ih fun text' there => within text' (List.mem_cons_of_mem _ there)
    exact Nat.max_le.2 ⟨within text List.mem_cons_self, rest⟩

/-- A text of one line whose end is not mistaken for padding. -/
def PlainText (text : CString) : Prop := '\n' ∉ text ∧ text.getLast? ≠ some ' '

instance (text : CString) : Decidable (PlainText text) := inferInstanceAs (Decidable (_ ∧ _))

def SwInterfaceDetails.devType (d : SwInterfaceDetails) : CString :=
  (interfaceEntry d).interfaceDevType

/-- The interfaces are told apart by their names, and a line has room for the
longest of these twice, for the longest device type and for the other columns. -/
structure Tellable (interfaces : List SwInterfaceDetails) (available : Nat) : Prop where
  indices : (interfaces.map (·.swIfIndex)).Nodup
  names : (interfaces.map (·.name)).Nodup
  known : ∀ d ∈ interfaces, d.name ≠ "<unknown>".toList
  plain : ∀ d ∈ interfaces, PlainText d.name ∧ PlainText d.devType
  wide : 2 * longest 14 (interfaces.map (·.name)) + longest 8 (interfaces.map (·.devType)) + 50 ≤
    available

/-! ## The table can be read back -/

theorem one_le_appTableClampWidth {column : AppTableColumn} (least : 1 ≤ column.minWidth)
    (width : Nat) :
    1 ≤ appTableClampWidth width column := by
  rw [appTableClampWidth_eq]
  split
  · omega
  · omega

theorem one_le_of_mem_clamped {columns : List AppTableColumn} {ws : List Nat}
    (least : ∀ column ∈ columns, 1 ≤ column.minWidth) :
    ∀ w ∈ List.zipWith appTableClampWidth ws columns, 1 ≤ w := by
  intro w there
  rw [← List.map_uncurry_zip_eq_zipWith] at there
  obtain ⟨⟨width, column⟩, inside, rfl⟩ := List.mem_map.1 there
  exact one_le_appTableClampWidth (least column (List.of_mem_zip inside).2) width

theorem PlainText.shown {text : CString} (h : PlainText text) {column : AppTableColumn}
    (uncapped : column.maxWidth ≠ 0 → text.length ≤ column.maxWidth) : Shown column .left text :=
  ⟨h.1, uncapped, fun _ => h.2, nofun⟩

theorem shown_formatU {column : AppTableColumn} (n : UInt32) (ten : 10 ≤ column.maxWidth) :
    Shown column .right (formatU n) := by
  have digit {c : Char} (there : c ∈ formatU n) : isdigit c = true := isdigit_of_mem_toDigits there
  refine ⟨fun newline => ?_, fun _ => (length_formatU n).trans ten, nofun, fun _ space => ?_⟩
  · exact absurd (digit newline) (by decide)
  · exact absurd (digit (List.mem_of_head? space)) (by decide)

theorem plain_boyIfTypeToString (type : IfType) :
    PlainText (boyIfTypeToString type) ∧ (boyIfTypeToString type).length ≤ 12 := by
  cases type with
  | other code => exact (by decide : PlainText "unknown".toList ∧ "unknown".toList.length ≤ 12)
  | _ => exact ⟨by decide, by decide⟩

/-- A cell that tells a state, or does not. -/
def StateCell (text : CString) : Prop := PlainText text ∧ text.length ≤ 8

theorem stateCell_boySpanStateDevice (state : SpanState) :
    StateCell (boySpanStateDevice state) := by
  cases state with
  | other code => exact (by decide : PlainText "none".toList ∧ "none".toList.length ≤ 8)
  | _ => exact ⟨by decide, by decide⟩

theorem stateCell_star : StateCell "*".toList := ⟨by decide, by decide⟩

theorem shown_spanRow {ifEntry : BoyInterfaceEntry} {destination device l2 : CString}
    (name : PlainText ifEntry.interfaceName) (dev : PlainText ifEntry.interfaceDevType)
    (dst : PlainText destination) (device_cell : StateCell device) (l2_cell : StateCell l2) :
    ∀ entry ∈ spanColumns.zip (spanRow ifEntry destination device l2),
      Shown entry.1 entry.1.align (orEmpty entry.2) := by
  have type := plain_boyIfTypeToString ifEntry.type
  simp only [spanColumns, spanRow, List.zip_cons_cons, List.zip_nil_right, List.forall_mem_cons]
  have uncapped {text : CString} : 0 ≠ 0 → text.length ≤ 0 := fun capped => absurd rfl capped
  refine ⟨name.shown uncapped, shown_formatU _ (Nat.le_refl _), type.1.shown fun _ => type.2,
    dev.shown uncapped, dst.shown uncapped, device_cell.1.shown fun _ => device_cell.2,
    l2_cell.1.shown fun _ => l2_cell.2, ?_⟩
  simp

/-- A destination is the name of an interface, or has none, or there is no mirror. -/
inductive DestinationCell (interfaces : List BoyInterfaceEntry) : CString → Prop
  | name {d : BoyInterfaceEntry} (there : d ∈ interfaces) :
      DestinationCell interfaces d.interfaceName
  | unknown : DestinationCell interfaces "<unknown>".toList
  | star : DestinationCell interfaces "*".toList

theorem destinationCell_name (interfaces : List BoyInterfaceEntry) (swIfIndex : UInt32) :
    DestinationCell interfaces (boyFindInterfaceName interfaces swIfIndex) := by
  unfold boyFindInterfaceName
  split
  · rename_i entry found
    exact .name (List.mem_of_find?_eq_some found)
  · exact .unknown

theorem of_mem_spanRows {interfaces : List BoyInterfaceEntry} {entries : List BoySpanEntry}
    {row : SpanRow} (there : row ∈ spanRows interfaces entries) :
    ∃ ifEntry ∈ interfaces, ∃ destination device l2, row = spanRow ifEntry destination device l2 ∧
      DestinationCell interfaces destination ∧ StateCell device ∧ StateCell l2 := by
  obtain ⟨ifEntry, candidate, mine⟩ := List.mem_flatMap.1 there
  refine ⟨ifEntry, (List.mem_filter.1 candidate).1, ?_⟩
  unfold candidateRows at mine
  split at mine
  · exact ⟨_, _, _, List.mem_singleton.1 mine, .star, stateCell_star, stateCell_star⟩
  · obtain ⟨entry, _, rfl⟩ := List.mem_map.1 mine
    have state := stateCell_boySpanStateDevice entry.state
    refine ⟨_, _, _, rfl, destinationCell_name _ _, ?_, ?_⟩
    · split
      · exact stateCell_star
      · exact state
    · unfold boySpanStateL2
      split
      · exact state
      · exact stateCell_star

section Tellable
variable {interfaces : List SwInterfaceDetails} {available : Nat} {t : AppTable}
    {entries : List BoySpanEntry}

def spanBounds (interfaces : List SwInterfaceDetails) : List Nat :=
  [longest 14 (interfaces.map (·.name)), 10, 12, longest 8 (interfaces.map (·.devType)),
    longest 14 (interfaces.map (·.name)), 8, 8]

theorem plain_destination (tellable : Tellable interfaces available) {destination : CString}
    (cell : DestinationCell (interfaces.map interfaceEntry) destination) :
    PlainText destination ∧ destination.length ≤ longest 14 (interfaces.map (·.name)) := by
  have least := least_le_longest 14 (interfaces.map (·.name))
  cases cell with
  | name there =>
    obtain ⟨d, inside, rfl⟩ := List.mem_map.1 there
    exact ⟨(tellable.plain d inside).1, length_le_longest (List.mem_map_of_mem inside)⟩
  | unknown => exact ⟨by decide, Nat.le_trans (by decide) least⟩
  | star => exact ⟨by decide, Nat.le_trans (by decide) least⟩

theorem columnsWithin_spanBounds (interfaces : List SwInterfaceDetails) :
    ColumnsWithin (spanBounds interfaces) spanColumns := by
  have name := least_le_longest 14 (interfaces.map (·.name))
  have dev := least_le_longest 8 (interfaces.map (·.devType))
  have header (text : String) (n : Nat) (short : text.toList.length ≤ n) {bound : Nat}
      (h : n ≤ bound) : (orEmpty (some text.toList)).length ≤ bound := short.trans h
  exact .cons ⟨header _ 14 (by decide) name, name⟩
    (.cons ⟨by decide, by decide⟩ (.cons ⟨by decide, by decide⟩
      (.cons ⟨header _ 8 (by decide) dev, dev⟩
        (.cons ⟨header _ 14 (by decide) name, Nat.le_trans (by decide) name⟩
          (.cons ⟨by decide, by decide⟩ (.cons ⟨by decide, by decide⟩ .nil))))))

/-- **The table of the candidates can be read back.** -/
theorem decodable_of_tellable (tellable : Tellable interfaces available)
    (columns : t.columns = spanColumns)
    (rows : t.rows = spanRows (interfaces.map interfaceEntry) entries) : Decodable t available := by
  have row_of (row : SpanRow) (there : row ∈ t.rows) : ∃ d ∈ interfaces, ∃ destination device l2,
      row = spanRow (interfaceEntry d) destination device l2 ∧
        DestinationCell (interfaces.map interfaceEntry) destination ∧
        StateCell device ∧ StateCell l2 := by
    rw [rows] at there
    obtain ⟨ifEntry, inside, shape⟩ := of_mem_spanRows there
    obtain ⟨d, there, rfl⟩ := List.mem_map.1 inside
    exact ⟨d, there, shape⟩
  constructor
  · rw [columns]
    decide
  · have within : ∀ row ∈ t.rows, RowWithin (spanBounds interfaces) row := by
      intro row there
      obtain ⟨d, inside, destination, device, l2, rfl, cell, device_cell, l2_cell⟩ :=
        row_of row there
      have name : d.name.length ≤ longest 14 (interfaces.map (·.name)) :=
        length_le_longest (List.mem_map_of_mem inside)
      have dev : d.devType.length ≤ longest 8 (interfaces.map (·.devType)) :=
        length_le_longest (List.mem_map_of_mem inside)
      exact .cons name (.cons (length_formatU _) (.cons (plain_boyIfTypeToString _).2 (.cons dev
        (.cons (plain_destination tellable cell).2 (.cons device_cell.2 (.cons l2_cell.2 .nil))))))
    have sum := sum_clampedWidths_le (columns ▸ columnsWithin_spanBounds interfaces) within
    have total : (spanBounds interfaces).sum =
        2 * longest 14 (interfaces.map (·.name)) + longest 8 (interfaces.map (·.devType)) + 38 := by
      simp [spanBounds]
      omega
    have gaps : t.gaps = 12 := by
      rw [AppTable.gaps, columns]
      rfl
    have wide := tellable.wide
    omega
  · rw [AppTable.clampedWidths, columns]
    exact one_le_of_mem_clamped (by decide)
  · rw [columns]
    decide
  · intro row there
    obtain ⟨d, inside, destination, device, l2, rfl, cell, device_cell, l2_cell⟩ := row_of row there
    rw [columns]
    obtain ⟨name, dev⟩ := tellable.plain d inside
    exact shown_spanRow name dev (plain_destination tellable cell).1 device_cell l2_cell

/-- Where the names are told apart, a name stands for an index. -/
theorem boyFindInterfaceName_eq_name_iff (tellable : Tellable interfaces available)
    {d : SwInterfaceDetails} (inside : d ∈ interfaces) (i : UInt32) :
    boyFindInterfaceName (interfaces.map interfaceEntry) i = d.name ↔ i = d.swIfIndex := by
  constructor
  · intro h
    unfold boyFindInterfaceName at h
    split at h
    · rename_i entry found
      obtain ⟨there, index⟩ := mem_of_boyFindInterfaceEntryByIndex found
      obtain ⟨other, inside', rfl⟩ := List.mem_map.mp there
      have same : other = d := List.inj_on_of_nodup_map tellable.names inside' inside h
      rw [← same]
      exact index.symm
    · exact absurd h.symm (tellable.known d inside)
  · rintro rfl
    have indices : ((interfaces.map interfaceEntry).map (·.swIfIndex)).Nodup := by
      rw [List.map_map]
      exact tellable.indices
    exact boyFindInterfaceName_of_mem indices (List.mem_map_of_mem inside)

end Tellable

/-! ## From VPP to the text -/

theorem mem_results {tr : List BoyEvent} {e : BoyEvent} (there : e ∈ tr)
    (result : e.call.isResult = true) : e.call ∈ results tr :=
  List.mem_filter.2 ⟨List.mem_map_of_mem there, result⟩

theorem results_boyShowSpan {tr : List BoyEvent} (run : Follows boyShowSpan tr 0) :
    ¬ ReportsError tr ∧ ∃ table widths, results tr = [.appTableRender table widths] := by
  have speaks : boyShowSpan.Speaks boySaying ToldTable .nothing :=
    told_withVapi leads_showSpanBody toldTable_failed
  obtain ⟨said, passes, told⟩ := speaks.follows run
  have tracked := tracks_of_passes passes
  rcases told with ⟨no, _⟩ | ⟨_, table, widths, rfl⟩
  · cases no
  · have quiet : ¬ ReportsError tr :=
      fun reported => Bool.false_ne_true (tracked.reported.2 reported)
    exact ⟨quiet, table, widths, tracked.printed.symm⟩

/-- At `--log-level error` the text is that of the table. -/
theorem stdout_boyShowSpan {printer : BoyPrinter} {tr : List BoyEvent}
    (level : printer.logLevel = .error) (run : Follows boyShowSpan tr 0) {table : AppTable}
    {widths : Bool} (one : results tr = [.appTableRender table widths]) :
    printer.stdout tr = printer.appTableRender table widths := by
  rw [BoyPrinter.stdout_eq_results level (results_boyShowSpan run).1, one, List.flatMap_singleton,
    BoyPrinter.printed]

theorem mem_readSpanText_iff {t : AppTable} {available : Nat} (decodable : Decodable t available)
    (columns : t.columns = spanColumns) (line : SpanLine) :
    line ∈ readSpanText (appTableRender t available) ↔
      line ∈ (t.rows.map (·.map orEmpty)).filterMap readSpanLine := by
  have decoded := decodable.decode
  rw [columns] at decoded
  rw [readSpanText, decoded]
  rfl

/-- What the entries of a dump are in VPP. -/
theorem mem_dumped_iff {t : SpanTable} {dev l2 : List SwInterfaceSpanDetails}
    (listsDev : Lists t false dev) (listsL2 : Lists t true l2) (entry : BoySpanEntry) :
    entry ∈ (dev ++ l2).map spanEntry ↔
      t.lookup ⟨entry.swIfIndexFrom, entry.swIfIndexTo, entry.isL2⟩ = some entry.state := by
  have details (ds : List SwInterfaceSpanDetails) : entry ∈ ds.map spanEntry ↔
      ⟨entry.swIfIndexFrom, entry.swIfIndexTo, entry.state, entry.isL2⟩ ∈ ds := by
    constructor
    · intro there
      obtain ⟨d, inside, rfl⟩ := List.mem_map.1 there
      exact inside
    · intro inside
      exact List.mem_map.2 ⟨_, inside, rfl⟩
  rw [List.map_append, List.mem_append, details, details, listsDev.mem_iff, listsL2.mem_iff]
  cases entry.isL2 with
  | true => simp [SwInterfaceSpanDetails.key]
  | false => simp [SwInterfaceSpanDetails.key]

/-- The lines are the mirrors of the candidates. -/
theorem mem_readSpanText_stdout_iff {printer : BoyPrinter} {w w' : Vpp} {tr : List BoyEvent}
    (level : printer.logLevel = .error) (tellable : Tellable w.interfaces printer.available)
    (run : Exec vppServe boyShowSpan w tr w' 0) {table : AppTable}
    (one : results tr = [.appTableRender table true]) (line : SpanLine) :
    line ∈ readSpanText (printer.stdout tr) ↔
      ∃ source ∈ w.interfaces, boyIsSpanSourceCandidate (interfaceEntry source) = true ∧
        ∃ entry : BoySpanEntry, entry.swIfIndexFrom = source.swIfIndex ∧
          w.span.lookup ⟨entry.swIfIndexFrom, entry.swIfIndexTo, entry.isL2⟩ = some entry.state ∧
          Mirroring entry.state ∧ line = spanLine (w.interfaces.map interfaceEntry) entry := by
  rcases follows_boyShowSpan run.follows with
    ⟨no, _⟩ | ⟨_, ifs, dev, l2, table', widths, seen, completes, columns, rows⟩
  · cases no
  obtain ⟨complete, completeDev, completeL2⟩ := completes
  have there : ⟨.appTableRender table' widths, ()⟩ ∈ tr :=
    mem_of_mem_visible (by simp [seen])
  have same := mem_results there rfl
  rw [one] at same
  obtain ⟨rfl, rfl⟩ := BoyCall.appTableRender.inj (List.mem_singleton.1 same)
  have served := serves_visible run.serves
  rw [seen] at served
  have listed := interfaces_of_serves [] served complete
  have listsDev : Lists w.span false dev.details :=
    lists_of_serves [⟨.swInterfaceDump, ifs⟩] served completeDev
  have listsL2 : Lists w.span true l2.details :=
    lists_of_serves [⟨.swInterfaceDump, ifs⟩, ⟨.swInterfaceSpanDump false, dev⟩] served completeL2
  rw [spanRows_congr listed] at rows
  rw [stdout_boyShowSpan level run.follows one, BoyPrinter.appTableRender, if_pos rfl,
    mem_readSpanText_iff (decodable_of_tellable tellable columns rows) columns, rows,
    mem_spanLines_iff]
  constructor
  · rintro ⟨ifEntry, there, candidate, entry, dumped, own, mirroring, told⟩
    obtain ⟨source, inside, rfl⟩ := List.mem_map.1 there
    have held := (mem_dumped_iff listsDev listsL2 entry).1 dumped
    exact ⟨source, inside, candidate, entry, own, held, mirroring, told⟩
  · rintro ⟨source, inside, candidate, entry, own, held, mirroring, told⟩
    have dumped := (mem_dumped_iff listsDev listsL2 entry).2 held
    exact ⟨_, List.mem_map_of_mem inside, candidate, entry, dumped, own, mirroring, told⟩

/-- Between a candidate and an interface there is a mirror exactly if a line says
so, with its layer and its state, and every line stands for a mirror. -/
structure TellsMirrors (w : Vpp) (text : CString) : Prop where
  told : ∀ source ∈ w.interfaces, boyIsSpanSourceCandidate (interfaceEntry source) = true →
    ∀ destination ∈ w.interfaces, ∀ isL2 state, Mirroring state →
      (w.span.lookup ⟨source.swIfIndex, destination.swIfIndex, isL2⟩ = some state ↔
        ⟨source.swIfIndex, destination.name, isL2, state⟩ ∈ readSpanText text)
  held : ∀ line ∈ readSpanText text, ∃ key, w.span.lookup key = some line.state ∧
    line.swIfIndex = key.swIfIndexFrom ∧ line.isL2 = key.isL2 ∧
    line.destination = boyFindInterfaceName (w.interfaces.map interfaceEntry) key.swIfIndexTo

theorem tellsMirrors_stdout {printer : BoyPrinter} {w w' : Vpp} {tr : List BoyEvent}
    (level : printer.logLevel = .error) (tellable : Tellable w.interfaces printer.available)
    (run : Exec vppServe boyShowSpan w tr w' 0) {table : AppTable}
    (one : results tr = [.appTableRender table true]) : TellsMirrors w (printer.stdout tr) := by
  have told := mem_readSpanText_stdout_iff level tellable run one
  constructor
  · intro source inside candidate destination inside' isL2 state mirroring
    have name := boyFindInterfaceName_eq_name_iff tellable inside'
    rw [told]
    constructor
    · intro held
      refine ⟨source, inside, candidate, ⟨source.swIfIndex, destination.swIfIndex, state, isL2⟩,
        rfl, held, mirroring, ?_⟩
      rw [spanLine, (name _).2 rfl]
    · rintro ⟨_, _, _, ⟨source', destination', state', isL2'⟩, _, held, _, same⟩
      obtain ⟨rfl, named, rfl, rfl⟩ := SpanLine.mk.inj same
      rwa [(name destination').1 named.symm] at held
  · intro line there
    obtain ⟨source, _, _, entry, _, held, _, rfl⟩ := (told line).1 there
    exact ⟨_, held, rfl, rfl, rfl⟩

/-- **The output of `--show-span` tells what VPP mirrors.** At `--log-level error`,
in a terminal that is wide enough, with interfaces whose names tell them apart:
the text tells the mirrors, or it is empty, because the table had no memory for
its widths. -/
theorem span_read_off_output {posixlyCorrect : Bool} {argv : List CString} {options : BoyCliOptions}
    (parsed : boyParseCliOptions posixlyCorrect argv = .ok options)
    (shows : options.mode = .showSpan)
    (errors : options.logLevel = .error) {w w' : Vpp} {tr : List BoyEvent}
    (run : Exec vppServe (boyMain posixlyCorrect argv) w tr w' 0) {printer : BoyPrinter}
    (level : printer.logLevel = options.logLevel)
    (tellable : Tellable w.interfaces printer.available) :
    ∃ table widths, results tr = [.appTableRender table widths] ∧
      rendering table widths <:+: tr ∧
      (widths = true → TellsMirrors w (printer.stdout tr)) ∧
      (widths = false → printer.stdout tr = []) := by
  have asked : AsksWidths boyShowSpan := asksWidths_withVapi asksWidths_showSpanBody
  have program : boyMain posixlyCorrect argv = boyShowSpan := by
    simp only [boyMain, parsed, boyRun, shows]
  rw [program] at run
  obtain ⟨_, table, widths, one⟩ := results_boyShowSpan run.follows
  have rendered := asked tr 0 run.follows table widths (one ▸ List.mem_singleton_self _)
  refine ⟨table, widths, one, rendered, ?_, ?_⟩
  · rintro rfl
    exact tellsMirrors_stdout (level.trans errors) tellable run one
  · rintro rfl
    rw [stdout_boyShowSpan (level.trans errors) run.follows one, BoyPrinter.appTableRender,
      if_neg Bool.false_ne_true]

/-- Names and device types have at most 64 bytes, so `COLUMNS=242` is wide enough
for every VPP. -/
theorem tellable_of_columns {n : Numeral} (enough : 242 ≤ n.toULong) (wsCol : Option Nat)
    {interfaces : List SwInterfaceDetails} (indices : (interfaces.map (·.swIfIndex)).Nodup)
    (names : (interfaces.map (·.name)).Nodup)
    (known : ∀ d ∈ interfaces, d.name ≠ "<unknown>".toList)
    (plain : ∀ d ∈ interfaces, PlainText d.name ∧ PlainText d.devType) :
    Tellable interfaces (appTableDetectTerminalWidth (some n.text) wsCol) := by
  refine ⟨indices, names, known, plain, ?_⟩
  rw [appTableDetectTerminalWidth_numeral n (Nat.lt_of_lt_of_le (by decide) enough)]
  have name : longest 14 (interfaces.map (·.name)) ≤ 64 := by
    apply longest_le (by decide)
    intro text there
    obtain ⟨d, _, rfl⟩ := List.mem_map.1 there
    exact Nat.le_of_lt_succ (boyCopyApiString_length_lt (by decide) d.interfaceName)
  have dev : longest 8 (interfaces.map (·.devType)) ≤ 64 := by
    apply longest_le (by decide)
    intro text there
    obtain ⟨d, _, rfl⟩ := List.mem_map.1 there
    exact Nat.le_of_lt_succ (boyCopyApiString_length_lt (by decide) d.interfaceDevType)
  omega

def layeredQuiet : List BoyEvent × AnsweringVpp × Int :=
  (layeredVpp.run (boyMain false quietLine)).get (by decide)

def wideNumeral : Numeral := .printed 0 0 242

def widePrinter : BoyPrinter :=
  { quietPrinter with available := appTableDetectTerminalWidth (some wideNumeral.text) none }

def printedTable : BoyCall → Bool
  | .appTableRender _ widths => widths
  | _ => false

theorem layers_read_off_output :
    ⟨1, "memif0/0".toList, false, .rx⟩ ∈ readSpanText (widePrinter.stdout layeredQuiet.1) := by
  have parsed : boyParseCliOptions false quietLine =
      .ok { boyDefaultOptions with mode := .showSpan, logLevel := .error } := rfl
  have run : Exec vppServe (boyMain false quietLine) layeredVpp.shown layeredQuiet.1
      layeredQuiet.2.1.shown 0 := AnsweringVpp.exec_run_eq _ rfl
  have wide : 242 ≤ wideNumeral.toULong := (Numeral.toULong_printed 0 0 (by decide)).ge
  have tellable : Tellable layeredVpp.interfaces widePrinter.available := by
    apply tellable_of_columns wide none
    · decide
    · decide
    · decide
    · decide
  have level : widePrinter.logLevel = .error := rfl
  obtain ⟨table, widths, one, _, tells, _⟩ := span_read_off_output parsed rfl rfl run level tellable
  have granted : widths = true := by
    have all : (results layeredQuiet.1).all printedTable = true := rfl
    rw [one] at all
    cases widths with
    | false => cases all
    | true => rfl
  have told := (tells granted).told
  exact (told (sampleInterface 1 .hardware "eth0") (by decide) rfl
    (sampleInterface 5 .hardware "memif0/0") (by decide) false .rx (by decide)).1 rfl

end BeastieBoy
