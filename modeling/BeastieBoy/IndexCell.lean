import BeastieBoy.Arguments
import BeastieBoy.PhyShow
import BeastieBoy.SpanListing
import BeastieBoy.TableCaps

/-!
# The If-Index cells

What an If-Index cell shows can be typed back: with the blanks that pad it, it
is the decimal text of the interface's index.
-/

namespace BeastieBoy

open CLib Interact

/-- The rows are those of `entries`. In a terminal wide enough for the table their
If-Index cells, padding included, are accepted as an argument and give the index
of their interface. -/
def IndicesReadBack (table : AppTable) (entries : List BoyInterfaceEntry) : Prop :=
  List.Forall₂ (fun row entry => row.getD 0 none = some entry.interfaceName ∧
    ∀ available, table.clampedWidths.sum + table.gaps ≤ available →
      boyParseIfIndex (table.printedCell available row 1) =
        some entry.swIfIndex.toNat) table.rows entries

/-- Whatever table a run of the command renders, it shows the interfaces of its
dump that satisfy `shows`, and their indices can be typed back. -/
def IndicesShown (command : Boy Int) (shows : BoyInterfaceEntry → Bool) : Prop :=
  ∀ (tr : List BoyEvent) (rc : Int) (table : AppTable) (widths : Bool), Follows command tr rc →
    ⟨.appTableRender table widths, ()⟩ ∈ tr →
      ∃ ifs entries, ⟨.swInterfaceDump, ifs⟩ ∈ tr ∧
        (∀ entry, entry ∈ entries ↔ entry ∈ (ifs.details.map interfaceEntry).filter shows) ∧
        IndicesReadBack table entries

/-! ## One cell -/

/-- A right-aligned number that fits is itself behind blanks. -/
theorem boyParseIfIndex_fittedCell {n : UInt32} {w : Nat} (fits : (formatU n).length ≤ w) :
    boyParseIfIndex (fittedCell (formatU n) w .right) = some n.toNat := by
  have printed : fittedCell (formatU n) w .right =
      (Numeral.printed (w - (formatU n).length) 0 n.toNat).text := by
    rw [fittedCell_right fits]
    rfl
  rw [printed]
  exact parseUnsigned_printed _ _ (by decide) n.toNat_lt rfl

/-- A right-aligned column capped at ten shows every index. -/
theorem boyParseIfIndex_printedCell {t : AppTable} {available : Nat} {row : List (Option CString)}
    {c : AppTableColumn} {n : UInt32} (fits : t.clampedWidths.sum + t.gaps ≤ available)
    (member : row ∈ t.rows)
    (column : t.columns[1]? = some c) (capped : c.maxWidth = 10) (aligned : c.align = .right)
    (cell : row.getD 1 none = some (formatU n)) :
    boyParseIfIndex (t.printedCell available row 1) = some n.toNat := by
  have short : FitsCap c (row.getD 1 none) := by
    intro _
    rw [cell, capped]
    exact length_formatU n
  obtain ⟨w, width, printed⟩ := printedCell_of_fits fits member column short
  rw [printed, cell, aligned]
  rw [cell] at width
  exact boyParseIfIndex_fittedCell width

/-- The first two cells of a row are what its entry says. -/
def RowOf (row : List (Option CString)) (entry : BoyInterfaceEntry) : Prop :=
  row.getD 0 none = some entry.interfaceName ∧ row.getD 1 none = some (formatU entry.swIfIndex)

theorem indicesReadBack_of_rows {t : AppTable} {entries : List BoyInterfaceEntry}
    {c : AppTableColumn}
    (column : t.columns[1]? = some c) (capped : c.maxWidth = 10) (aligned : c.align = .right)
    (rows : List.Forall₂ RowOf t.rows entries) : IndicesReadBack t entries := by
  have members := (List.forall₂_and_left (p := (· ∈ t.rows)) _ _).2 ⟨fun _ member => member, rows⟩
  apply members.imp
  rintro row entry ⟨member, name, index⟩
  exact ⟨name, fun available fits =>
    boyParseIfIndex_printedCell fits member column capped aligned index⟩

/-! ## The two commands -/

theorem candidateSubjects_ne (entries : List BoySpanEntry) (ifEntry : BoyInterfaceEntry) :
    candidateSubjects entries ifEntry ≠ [] := by
  unfold candidateSubjects
  split
  · simp
  · rename_i some
    simpa using some

theorem mem_subjects_iff (candidates : List BoyInterfaceEntry) (entries : List BoySpanEntry)
    (entry : BoyInterfaceEntry) :
    entry ∈ (candidates.flatMap (candidateSubjects entries)).map Prod.fst ↔ entry ∈ candidates := by
  constructor
  · intro h
    obtain ⟨⟨_, o⟩, subject, rfl⟩ := List.mem_map.mp h
    obtain ⟨candidate, there, inside⟩ := List.mem_flatMap.mp subject
    rw [(mem_candidateSubjects inside).1]
    exact there
  · intro there
    obtain ⟨⟨entry', o⟩, subject⟩ :=
      List.exists_mem_of_ne_nil _ (candidateSubjects_ne entries entry)
    rw [← (mem_candidateSubjects subject).1]
    exact List.mem_map_of_mem (f := Prod.fst) (List.mem_flatMap.mpr ⟨entry, there, subject⟩)

theorem rowOf_subjectRow (interfaces : List BoyInterfaceEntry) (subject : SpanSubject) :
    RowOf (subjectRow interfaces subject) subject.1 := by
  obtain ⟨ifEntry, _ | entry⟩ := subject
  · exact ⟨rfl, rfl⟩
  · exact ⟨rfl, rfl⟩

theorem indicesShown_boyShowSpan : IndicesShown boyShowSpan boyIsSpanSourceCandidate := by
  intro tr rc table widths run rendered
  have shown : table ∈ tr.filterMap renderedTable := List.mem_filterMap.mpr ⟨_, rendered, rfl⟩
  rw [← renderedTable_visible] at shown
  rcases follows_boyShowSpan run with ⟨_, none⟩ | ⟨_, ifs, dev, l2, table', _, seen, _,
    columns, rows⟩
  · rw [renderedTable_visible, none] at shown
    cases shown
  · have same : table' = table := by simpa [seen, renderedTable] using shown
    subst same
    refine ⟨ifs, _, mem_of_mem_visible (by simp [seen]),
      mem_subjects_iff _ ((dev.details ++ l2.details).map spanEntry), ?_⟩
    apply indicesReadBack_of_rows (c := ⟨some "If-Index".toList, 8, 10, false, .right⟩)
      (by rw [columns]; rfl) rfl rfl
    rw [rows, spanRows, funext (candidateRows_eq _ _), ← List.map_flatMap,
      List.forall₂_map_left_iff,
      List.forall₂_map_right_iff, List.forall₂_same]
    exact fun subject _ => rowOf_subjectRow _ subject

theorem refamilied_physical {interfaces entries : List BoyInterfaceEntry}
    (h : Refamilied interfaces entries) :
    Refamilied (interfaces.filter boyIsPhysicalInterface)
      (entries.filter boyIsPhysicalInterface) := by
  have through (l : List BoyInterfaceEntry) :
      (l.filter boyIsPhysicalInterface).map bare = (l.map bare).filter boyIsPhysicalInterface := by
    rw [List.filter_map]
    rfl
  rw [Refamilied, through, through, h]

theorem indicesShown_boyShowPhy : IndicesShown boyShowPhy boyIsPhysicalInterface := by
  intro tr rc table widths run rendered
  have shown : table ∈ tr.filterMap renderedTable := List.mem_filterMap.mpr ⟨_, rendered, rfl⟩
  rcases follows_boyShowPhy run with ⟨_, none⟩ | ⟨_, ifs, entries, table', dumped, families, only,
    columns, rows⟩
  · rw [none] at shown
    cases shown
  · rw [only, List.mem_singleton] at shown
    subst shown
    refine ⟨ifs, _, dumped, fun _ => Iff.rfl, ?_⟩
    apply indicesReadBack_of_rows (c := ⟨some "If-Index".toList, 8, 10, false, .right⟩)
      (by rw [columns]; rfl) rfl rfl
    have alike : List.Forall₂ (fun entry entry' => bare entry = bare entry')
        (entries.filter boyIsPhysicalInterface)
          ((ifs.details.map interfaceEntry).filter boyIsPhysicalInterface) := by
      have equal : List.Forall₂ Eq ((entries.filter boyIsPhysicalInterface).map bare)
          (((ifs.details.map interfaceEntry).filter boyIsPhysicalInterface).map bare) := by
        rw [refamilied_physical families]
        exact List.forall₂_refl _
      exact List.forall₂_map_right_iff.1 (List.forall₂_map_left_iff.1 equal)
    rw [rows, phyRows, List.forall₂_map_left_iff]
    apply alike.imp
    intro entry entry' same
    have name : (bare entry).interfaceName = (bare entry').interfaceName := by rw [same]
    have index : (bare entry).swIfIndex = (bare entry').swIfIndex := by rw [same]
    refine ⟨congrArg some name, ?_⟩
    have cell : (phyRow entry).getD 1 none = some (snprintf 16 (formatU entry.swIfIndex)) := rfl
    rw [cell, snprintf_formatU]
    exact congrArg (fun n => some (formatU n)) index

/-- **Indices can be typed as they are shown.** Every If-Index cell the two
commands render, and every number with any leading zeros in front, is accepted
with its value by the parsers of its width. -/
theorem printed_numbers_read_back :
    IndicesShown boyShowSpan boyIsSpanSourceCandidate ∧
    IndicesShown boyShowPhy boyIsPhysicalInterface ∧
    (∀ (zeros : Nat) (n : UInt32), ∀ parse ∈ [boyParseIfIndex, boyParseU32, parseMemifId],
      parse (List.replicate zeros '0' ++ formatU n) = some n.toNat) ∧
    ∀ (zeros : Nat) (n : UInt64),
      parseMaxCaptureBytes (List.replicate zeros '0' ++ Nat.toDigits 10 n.toNat) =
        some n.toNat := by
  refine ⟨indicesShown_boyShowSpan, indicesShown_boyShowPhy, fun zeros n parse known => ?_,
    fun zeros n => ?_⟩
  · simp only [List.mem_cons, List.not_mem_nil, or_false] at known
    rcases known with rfl | rfl | rfl
    · exact parseUnsigned_printed 0 zeros (by decide) n.toNat_lt rfl
    · have small : n.toNat < 2 ^ 32 := n.toNat_lt
      exact parseUnsigned_printed 0 zeros (by decide) small (by simp; omega)
    · exact parseUnsigned_printed 0 zeros (by decide) n.toNat_lt rfl
  · exact parseUnsigned_printed 0 zeros (by decide) n.toNat_lt rfl

theorem layered_rendered : layeredShown.1.filterMap renderedTable ≠ [] := by decide

def layeredTable : AppTable := (layeredShown.1.filterMap renderedTable).head layered_rendered

theorem layered_index_read_back : ∃ (row : SpanRow) (entry : BoyInterfaceEntry),
    row ∈ layeredTable.rows ∧
    row.getD 0 none = some entry.interfaceName ∧
    boyParseIfIndex (layeredTable.printedCell 120 row 1) = some entry.swIfIndex.toNat := by
  have run : Exec vppServe boyShowSpan layeredVpp.shown layeredShown.1 layeredShown.2.1.shown 0 :=
    AnsweringVpp.exec_run_eq _ (by decide)
  have rendered : ∃ widths, ⟨.appTableRender layeredTable widths, ()⟩ ∈ layeredShown.1 := by
    obtain ⟨⟨c, r⟩, there, renders⟩ := List.mem_filterMap.mp (List.head_mem layered_rendered)
    cases c with
    | appTableRender table widths =>
      cases renders
      exact ⟨widths, there⟩
    | _ => cases renders
  obtain ⟨widths, rendered⟩ := rendered
  obtain ⟨ifs, entries, _, _, shown⟩ := printed_numbers_read_back.1 _ _ _ _ run.follows rendered
  have some_rows : layeredTable.rows ≠ [] := by decide
  obtain ⟨row, rest, rows⟩ := List.exists_cons_of_ne_nil some_rows
  unfold IndicesReadBack at shown
  rw [rows] at shown
  cases shown with
  | cons first _ => exact ⟨row, _, by simp [rows], first.1, first.2 120 (by decide)⟩

end BeastieBoy
