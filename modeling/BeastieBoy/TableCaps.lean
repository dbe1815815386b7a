import BeastieBoy.MemifCmd
import BeastieBoy.PhyCmd
import BeastieBoy.SpanListing
import BeastieBoy.TableDecode

/-!
# The capped columns

Each table of `boy` caps some of its columns by hand. The caps of the SPAN and
the memif table hold everything the program can put there; that of the Speed
column does not, and `ShortSpeed` says which speeds it holds.
-/

namespace BeastieBoy

open CLib

/-- The text is not longer than the column may get. -/
def FitsCap (column : AppTableColumn) (cell : Option CString) : Prop :=
  column.maxWidth ≠ 0 → (orEmpty cell).length ≤ column.maxWidth

/-- Every cell of the row. -/
def RowFits (columns : List AppTableColumn) (row : List (Option CString)) : Prop :=
  ∀ entry ∈ columns.zip row, FitsCap entry.1 entry.2

/-- The speeds whose text is not longer than ten: below 1000000 Mbps or Gbps. -/
def ShortSpeed (linkSpeed : UInt32) : Prop :=
  linkSpeed.toNat < 10 ^ 6 ∨ linkSpeed.toNat % 1000 = 0 ∧ linkSpeed.toNat < 10 ^ 9

instance (linkSpeed : UInt32) : Decidable (ShortSpeed linkSpeed) :=
  inferInstanceAs (Decidable (linkSpeed.toNat < 10 ^ 6 ∨ _))

/-! ## The texts -/

theorem length_formatU (n : UInt32) : (formatU n).length ≤ 10 := by
  have small := n.toNat_lt
  rw [formatU, Nat.length_toDigits_le_iff (by decide) (by decide)]
  omega

theorem snprintf_of_lt {size : Nat} {text : CString} (room : text.length < size) :
    snprintf size text = text :=
  List.take_of_length_le (by omega)

theorem snprintf_formatU (n : UInt32) : snprintf 16 (formatU n) = formatU n := by
  have := length_formatU n
  exact snprintf_of_lt (by omega)

/-- A speed as the number and the unit it is printed with. -/
theorem boyPhySpeedToString_eq (linkSpeed : UInt32) :
    boyPhySpeedToString linkSpeed 16 =
      if linkSpeed.toNat = 0 then "unknown".toList
      else if linkSpeed.toNat % 1000 = 0 then
        Nat.toDigits 10 (linkSpeed.toNat / 1000) ++ "Gbps".toList
      else Nat.toDigits 10 linkSpeed.toNat ++ "Mbps".toList := by
  have unit (n : UInt32) (u : CString) (four : u.length = 4) :
      snprintf 16 (formatU n ++ u) = Nat.toDigits 10 n.toNat ++ u := by
    have := length_formatU n
    apply snprintf_of_lt
    rw [List.length_append]
    omega
  unfold boyPhySpeedToString
  rw [unit _ _ rfl, unit _ _ rfl]
  have zero : linkSpeed = 0 ↔ linkSpeed.toNat = 0 := by
    rw [← UInt32.toNat_inj]; rfl
  have whole : linkSpeed % 1000 = 0 ↔ linkSpeed.toNat % 1000 = 0 := by
    rw [← UInt32.toNat_inj, UInt32.toNat_mod]; rfl
  simp only [zero, whole, UInt32.toNat_div]
  rfl

theorem length_boyPhySpeedToString_iff (linkSpeed : UInt32) :
    (boyPhySpeedToString linkSpeed 16).length ≤ 10 ↔ ShortSpeed linkSpeed := by
  have digits (n : Nat) (u : CString) (four : u.length = 4) :
      (Nat.toDigits 10 n ++ u).length ≤ 10 ↔ n < 10 ^ 6 := by
    rw [List.length_append, four, ← Nat.length_toDigits_le_iff (by decide) (by decide : 0 < 6)]
    omega
  rw [boyPhySpeedToString_eq, ShortSpeed]
  split
  · rename_i zero
    rw [zero]
    simp
  · split
    · rename_i whole
      rw [digits _ _ rfl]
      omega
    · rename_i rest
      rw [digits _ _ rfl]
      omega

/-- What stands in front of the last four letters, and these. -/
def speedParts (n : Nat) : CString × CString :=
  if n = 0 then ("unk".toList, "nown".toList)
  else if n % 1000 = 0 then (Nat.toDigits 10 (n / 1000), "Gbps".toList)
  else (Nat.toDigits 10 n, "Mbps".toList)

theorem boyPhySpeedToString_parts (linkSpeed : UInt32) : boyPhySpeedToString linkSpeed 16 =
    (speedParts linkSpeed.toNat).1 ++ (speedParts linkSpeed.toNat).2 := by
  rw [boyPhySpeedToString_eq, speedParts]
  split
  · rfl
  · split
    · rfl
    · rfl

theorem speedParts_injective {m n : Nat} (h : speedParts m = speedParts n) : m = n := by
  unfold speedParts at h
  split at h
  · split at h
    · omega
    · split at h
      · simp at h
      · simp at h
  · split at h
    · split at h
      · simp at h
      · split at h
        · have same := toDigits_injective (Prod.mk.inj h).1
          omega
        · simp at h
    · split at h
      · simp at h
      · split at h
        · simp at h
        · exact toDigits_injective (Prod.mk.inj h).1

/-- Different speeds have different texts. -/
theorem boyPhySpeedToString_injective {s s' : UInt32}
    (h : boyPhySpeedToString s 16 = boyPhySpeedToString s' 16) : s = s' := by
  have four (n : Nat) : (speedParts n).2.length = 4 := by
    unfold speedParts
    split
    · rfl
    · split
      · rfl
      · rfl
  rw [boyPhySpeedToString_parts, boyPhySpeedToString_parts] at h
  obtain ⟨number, unit⟩ := List.append_inj' h ((four _).trans (four _).symm)
  exact UInt32.toNat_inj.1 (speedParts_injective (Prod.ext number unit))

/-! ## The rows -/

theorem spanRow_fits (ifEntry : BoyInterfaceEntry) (destination : CString) {device l2 : CString}
    (short : device.length ≤ 8) (short' : l2.length ≤ 8) :
    RowFits spanColumns (spanRow ifEntry destination device l2) := by
  have index := length_formatU ifEntry.swIfIndex
  have type : (boyIfTypeToString ifEntry.type).length ≤ 12 := by
    cases ifEntry.type with
    | other code => exact (by decide : "unknown".toList.length ≤ 12)
    | _ => decide
  simp [RowFits, FitsCap, spanColumns, spanRow, orEmpty, index, type, short, short']

theorem length_boySpanStateDevice (state : SpanState) : (boySpanStateDevice state).length ≤ 8 := by
  cases state with
  | other code => exact (by decide : "none".toList.length ≤ 8)
  | _ => decide

theorem subjectRow_fits (interfaces : List BoyInterfaceEntry) (subject : SpanSubject) :
    RowFits spanColumns (subjectRow interfaces subject) := by
  obtain ⟨ifEntry, _ | entry⟩ := subject
  · exact spanRow_fits _ _ (by decide) (by decide)
  · have state := length_boySpanStateDevice entry.state
    apply spanRow_fits
    · split
      · decide
      · exact state
    · unfold boySpanStateL2
      split
      · exact state
      · decide

theorem memifRow_fits (entry : BoyMemifEntry) : RowFits memifColumns (memifRow entry) := by
  have index := length_formatU entry.socketId
  have room : (formatU entry.socketId).length ≤ 12 := by omega
  simp [RowFits, FitsCap, memifColumns, memifRow, orEmpty, snprintf_formatU, room]

/-- Six octets with five colons. -/
theorem length_ethernetAddress (reply : SwInterfaceDetails) :
    (interfaceEntry reply).ethernetAddress.length = 17 := by
  have octets : Layout.widths (reply.l2Address.toList.map formatHex2) = List.replicate 6 2 := by
    rw [Layout.widths, List.map_map]
    refine List.eq_replicate_iff.2 ⟨by simp, fun n hn => ?_⟩
    obtain ⟨octet, _, rfl⟩ := List.mem_map.1 hn
    rfl
  rw [interfaceEntry, Layout.length_intercalate, octets]
  simp

theorem phyRow_fits_iff (reply : SwInterfaceDetails) (family : CString) :
    RowFits phyColumns (phyRow { interfaceEntry reply with cardFamily := family }) ↔
      ShortSpeed reply.linkSpeed := by
  have index := length_formatU reply.swIfIndex
  have link : (boyPhyLinkState reply.flags).length ≤ 8 := by
    unfold boyPhyLinkState
    split
    · decide
    · decide
  have address := length_ethernetAddress reply
  simp only [RowFits, FitsCap, phyColumns, phyRow, orEmpty, snprintf_formatU, List.zip_cons_cons,
    List.zip_nil_right, List.forall_mem_cons, Option.getD_some, address,
    length_boyPhySpeedToString_iff]
  simp [interfaceEntry, index, link]

/-! ## The tables -/

/-- `cells` in the columns, as a table. -/
def tableOf (columns : List AppTableColumn) (rows : List (List (Option CString)))
    (whole : ∀ cells ∈ rows, cells.length = columns.length) : AppTable :=
  ⟨columns, rows, rows.length, whole⟩

def spanTable (interfaces : List BoyInterfaceEntry) (subjects : List SpanSubject) : AppTable :=
  tableOf spanColumns (subjects.map (subjectRow interfaces)) (by
    intro cells member
    obtain ⟨⟨_, _ | _⟩, _, rfl⟩ := List.mem_map.1 member
    · rfl
    · rfl)

def memifTable (details : List MemifDetails) : AppTable :=
  tableOf memifColumns (details.map fun reply => memifRow (memifEntry reply)) (by
    intro cells member
    obtain ⟨_, _, rfl⟩ := List.mem_map.1 member
    rfl)

/-- What VPP said of an interface, and the card family found for it. -/
abbrev PhyReply := SwInterfaceDetails × CString

def PhyReply.entry (reply : PhyReply) : BoyInterfaceEntry :=
  { interfaceEntry reply.1 with cardFamily := reply.2 }

def phyTable (replies : List PhyReply) : AppTable :=
  tableOf phyColumns (replies.map fun reply => phyRow reply.entry) (by
    intro cells member
    obtain ⟨_, _, rfl⟩ := List.mem_map.1 member
    rfl)

/-- What stands in the line of a row at column `j`. -/
def AppTable.printedCell (t : AppTable) (available : Nat) (row : List (Option CString))
    (j : Nat) : CString :=
  Layout.slice (lineText (t.rowLine available row)) (Layout.offset 2 (t.finalWidths available) j)
    ((t.finalWidths available).getD j 0)

/-- A text and nothing but spaces around it. -/
def PrintsAll (cell text : CString) : Prop :=
  ∃ m n, cell = List.replicate m ' ' ++ text ++ List.replicate n ' '

/-- Wherever the table fits, its capped columns are printed in full. -/
def ShownInFull (t : AppTable) : Prop :=
  (∀ row ∈ t.rows, RowFits t.columns row) ∧
    ∀ available, t.clampedWidths.sum + t.gaps ≤ available → ∀ row ∈ t.rows, ∀ (j : Nat) c,
      t.columns[j]? = some c → c.maxWidth ≠ 0 →
        PrintsAll (t.printedCell available row j) (orEmpty (row.getD j none))

/-- Wherever the table fits, interfaces of different speeds have different Speed cells. -/
def SpeedsApart (replies : List PhyReply) : Prop :=
  ∀ available, (phyTable replies).clampedWidths.sum + (phyTable replies).gaps ≤ available →
    ∀ reply ∈ replies, ∀ reply' ∈ replies, reply.1.linkSpeed ≠ reply'.1.linkSpeed →
      (phyTable replies).printedCell available (phyRow reply.entry) 3 ≠
        (phyTable replies).printedCell available (phyRow reply'.entry) 3

/-- In a table that fits, a cell within its column's cap is printed in full. -/
theorem printedCell_of_fits {t : AppTable} {available : Nat}
    (fits : t.clampedWidths.sum + t.gaps ≤ available)
    {row : List (Option CString)} (member : row ∈ t.rows) {j : Nat} {c : AppTableColumn}
    (column : t.columns[j]? = some c) (short : FitsCap c (row.getD j none)) :
    ∃ w, (orEmpty (row.getD j none)).length ≤ w ∧
      t.printedCell available row j = fittedCell (orEmpty (row.getD j none)) w c.align := by
  have whole := t.cells_length row member
  have inside : j < row.length := whole ▸ (List.getElem?_eq_some_iff.1 column).1
  have there : row[j]? = some (row.getD j none) := by
    rw [List.getD_eq_getElem?_getD, List.getElem?_eq_getElem inside]
    rfl
  obtain ⟨w, width, _, cells⟩ := t.exists_clampedWidth column
  rw [← AppTable.finalWidths_of_fits fits] at width
  refine ⟨w, cells row member _ there short, ?_⟩
  have line : t.rowLine available row ∈ t.lines available :=
    List.mem_cons_of_mem _ (List.mem_cons_of_mem _ (List.mem_map_of_mem member))
  have final : (t.finalWidths available).getD j 0 = w := by
    rw [List.getD_eq_getElem?_getD, width]
    rfl
  rw [AppTable.printedCell, final]
  exact slice_lineText line (rowLine_cell whole column width) (length_fittedCell _ _ _)

theorem printsAll_fittedCell {text : CString} {w : Nat} (fits : text.length ≤ w)
    (align : AppTableAlign) :
    PrintsAll (fittedCell text w align) text := by
  cases align with
  | left => exact ⟨0, _, fittedCell_left fits⟩
  | right => exact ⟨w - text.length, 0, by rw [fittedCell_right fits]; simp⟩

/-- What keeps within the caps is printed in full. -/
theorem shownInFull_of_rowFits {t : AppTable} (short : ∀ row ∈ t.rows, RowFits t.columns row) :
    ShownInFull t := by
  refine ⟨short, fun available fits row member j c column capped => ?_⟩
  have whole := t.cells_length row member
  have cell : FitsCap c (row.getD j none) := by
    have inside : j < row.length := whole ▸ (List.getElem?_eq_some_iff.1 column).1
    apply short row member (c, row.getD j none)
    apply List.mem_of_getElem? (i := j)
    rw [List.getElem?_zip_eq_some]
    refine ⟨column, ?_⟩
    rw [List.getD_eq_getElem?_getD, List.getElem?_eq_getElem inside]
    rfl
  obtain ⟨w, width, printed⟩ := printedCell_of_fits fits member column cell
  rw [printed]
  exact printsAll_fittedCell width c.align

theorem getLast_boyPhySpeedToString (linkSpeed : UInt32) :
    (boyPhySpeedToString linkSpeed 16).getLast? ≠ some ' ' := by
  rw [boyPhySpeedToString_parts, speedParts]
  split
  · decide
  · split
    · simp
    · simp

theorem speedsApart_of_short {replies : List PhyReply}
    (short : ∀ reply ∈ replies, ShortSpeed reply.1.linkSpeed) : SpeedsApart replies := by
  intro available fits reply member reply' member' different same
  have column : (phyTable replies).columns[3]? = some ⟨some "Speed".toList, 5, 10, false, .left⟩ :=
    rfl
  have printed {reply : PhyReply} (member : reply ∈ replies) : ∃ w,
      (boyPhySpeedToString reply.1.linkSpeed 16).length ≤ w ∧
        (phyTable replies).printedCell available (phyRow reply.entry) 3 =
          fittedCell (boyPhySpeedToString reply.1.linkSpeed 16) w .left := by
    have row : phyRow reply.entry ∈ (phyTable replies).rows := List.mem_map_of_mem member
    have ten := (length_boyPhySpeedToString_iff _).2 (short reply member)
    exact printedCell_of_fits fits row column fun _ => ten
  obtain ⟨w, width, first⟩ := printed member
  obtain ⟨w', width', second⟩ := printed member'
  rw [first, second, fittedCell_left width, fittedCell_left width'] at same
  have texts := congrArg (List.rdropWhile (· = ' ')) same
  rw [Layout.rdropWhile_padding _ (getLast_boyPhySpeedToString _),
    Layout.rdropWhile_padding _ (getLast_boyPhySpeedToString _)] at texts
  exact different (boyPhySpeedToString_injective texts)

/-- **When no capped column is cut.** The SPAN and the memif table always show
their capped columns in full; the table of the physical interfaces does, and
tells their speeds apart, exactly when the text of every speed is short. -/
theorem capped_columns_full_iff (interfaces : List BoyInterfaceEntry) (subjects : List SpanSubject)
    (details : List MemifDetails) (replies : List PhyReply) :
    ShownInFull (spanTable interfaces subjects) ∧ ShownInFull (memifTable details) ∧
        ShownInFull (phyTable replies) ∧ SpeedsApart replies ↔
      ∀ reply ∈ replies, ShortSpeed reply.1.linkSpeed := by
  constructor
  · rintro ⟨_, _, ⟨rows, _⟩, _⟩ reply member
    exact (phyRow_fits_iff reply.1 reply.2).1 (rows _ (List.mem_map_of_mem member))
  · intro short
    refine ⟨?_, ?_, ?_, speedsApart_of_short short⟩
    · apply shownInFull_of_rowFits
      intro row member
      obtain ⟨subject, _, rfl⟩ := List.mem_map.1 member
      exact subjectRow_fits interfaces subject
    · apply shownInFull_of_rowFits
      intro row member
      obtain ⟨reply, _, rfl⟩ := List.mem_map.1 member
      exact memifRow_fits (memifEntry reply)
    · apply shownInFull_of_rowFits
      intro row member
      obtain ⟨reply, there, rfl⟩ := List.mem_map.1 member
      exact (phyRow_fits_iff reply.1 reply.2).2 (short reply there)

/-- An interface of this speed. -/
def phyReplyOf (linkSpeed : UInt32) : PhyReply :=
  (⟨1, .hardware, 0, linkSpeed, .of "eth0".toList, .of "dpdk".toList, Vector.replicate 6 0⟩,
    "dpdk".toList)

/-- Two interfaces whose speeds are cut to the same seven digits. -/
theorem speeds_cut : ¬ ShownInFull (phyTable [phyReplyOf 4294967295]) ∧
    ¬ SpeedsApart [phyReplyOf 4294967295, phyReplyOf 4294967291] := by
  refine ⟨fun full => ?_, fun apart => ?_⟩
  · have rows := full.1 _ (List.mem_singleton.2 rfl)
    exact absurd ((phyRow_fits_iff _ _).1 rows) (by decide)
  · exact apart 200 (by decide) _ List.mem_cons_self _ (List.mem_cons_of_mem _ List.mem_cons_self)
      (by decide)
      (by decide)

end BeastieBoy
