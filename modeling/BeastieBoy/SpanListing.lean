import BeastieBoy.SpanShow
import BeastieBoy.AnsweringVpp
import Mathlib.Data.List.Nodup

/-!
# What the rows stand for

Each row `boy_show_span` renders has a subject: a candidate with one of its SPAN
entries, or a candidate without any. The subjects name every entry of a
candidate once, and a row tells its subject's destination, layer and state.
-/

namespace BeastieBoy

open CLib Interact

/-- A candidate, and the entry of it that is shown, if it has any. -/
abbrev SpanSubject := BoyInterfaceEntry × Option BoySpanEntry

def candidateSubjects (entries : List BoySpanEntry) (ifEntry : BoyInterfaceEntry) :
    List SpanSubject :=
  if ownSpanEntries entries ifEntry = [] then [(ifEntry, none)]
  else (ownSpanEntries entries ifEntry).map fun entry => (ifEntry, some entry)

def subjectRow (interfaces : List BoyInterfaceEntry) : SpanSubject → SpanRow
  | (ifEntry, some entry) => spanEntryRow interfaces ifEntry entry
  | (ifEntry, none) => noSpanEntryRow ifEntry

def destinationCell (row : SpanRow) : CString := orEmpty (row.getD 4 none)

def deviceCell (row : SpanRow) : CString := orEmpty (row.getD 5 none)

def l2Cell (row : SpanRow) : CString := orEmpty (row.getD 6 none)

def readSpanState (text : CString) : Option SpanState :=
  if text = "rx".toList then some .rx
  else if text = "tx".toList then some .tx
  else if text = "both".toList then some .rxTx
  else none

/-- The layer and the state told by the Device and L2 cells. -/
def readSpanCells (device l2 : CString) : Option (Bool × SpanState) :=
  match readSpanState device, readSpanState l2 with
  | some state, _ => some (false, state)
  | none, some state => some (true, state)
  | none, none => none

/-- What may be mirrored: hardware, or a VLAN of it, but not `local0` and no memif. -/
def SpanSource (entry : BoyInterfaceEntry) : Prop :=
  (entry.type = .hardware ∨ entry.type = .sub ∧ '.' ∈ entry.interfaceName) ∧
    entry.interfaceName ≠ "local0".toList ∧ ¬ "memif".toList <+: entry.interfaceName

instance : DecidablePred SpanSource := fun _ => inferInstanceAs (Decidable (_ ∧ _))

/-- How the rows tell the dumps: the candidates in their order with their entries
in theirs, every entry of a candidate once and nothing else. -/
structure ListsSpan (interfaces : List BoyInterfaceEntry) (entries : List BoySpanEntry)
    (rows : List SpanRow) (subjects : List SpanSubject) : Prop where
  shown : rows = subjects.map (subjectRow interfaces)
  cells : ∀ subject ∈ subjects, ∃ destination device l2, subjectRow interfaces subject =
    [some subject.1.interfaceName, some (Nat.toDigits 10 subject.1.swIfIndex.toNat),
      some (boyIfTypeToString subject.1.type), some subject.1.interfaceDevType,
      some destination, some device, some l2]
  order : subjects = (interfaces.filter (SpanSource ·)).flatMap (candidateSubjects entries)
  once : (subjects.filterMap Prod.snd).Perm (entries.filter fun entry =>
    interfaces.any fun ifEntry => SpanSource ifEntry ∧ ifEntry.swIfIndex = entry.swIfIndexFrom)
  real : ∀ ifEntry entry, (ifEntry, some entry) ∈ subjects →
    entry ∈ entries ∧ entry.swIfIndexFrom = ifEntry.swIfIndex
  placeholder : ∀ ifEntry, (ifEntry, none) ∈ subjects →
    (∀ entry ∈ entries, entry.swIfIndexFrom ≠ ifEntry.swIfIndex) ∧
      destinationCell (subjectRow interfaces (ifEntry, none)) = "*".toList ∧
      deviceCell (subjectRow interfaces (ifEntry, none)) = "*".toList ∧
      l2Cell (subjectRow interfaces (ifEntry, none)) = "*".toList
  destination : ∀ ifEntry entry, (ifEntry, some entry) ∈ subjects →
    (∀ target ∈ interfaces, target.swIfIndex = entry.swIfIndexTo →
        destinationCell (subjectRow interfaces (ifEntry, some entry)) = target.interfaceName) ∧
      ((∀ target ∈ interfaces, target.swIfIndex ≠ entry.swIfIndexTo) →
        destinationCell (subjectRow interfaces (ifEntry, some entry)) = "<unknown>".toList)
  state : ∀ ifEntry entry, (ifEntry, some entry) ∈ subjects →
    entry.state ∈ [.rx, .tx, .rxTx] →
      readSpanCells (deviceCell (subjectRow interfaces (ifEntry, some entry)))
        (l2Cell (subjectRow interfaces (ifEntry, some entry))) = some (entry.isL2, entry.state)

/-! ## The subjects -/

/-- The tests of `boy_is_span_source_candidate`, one behind the other. -/
theorem boyIsSpanSourceCandidate_iff {entry : BoyInterfaceEntry} :
    boyIsSpanSourceCandidate entry = true ↔ SpanSource entry := by
  have memif : namesMemif entry.interfaceName = true ↔
      "memif".toList <+: entry.interfaceName := by
    rw [namesMemif, decide_eq_true_iff, List.prefix_iff_eq_take]
    exact eq_comm
  have kind : ¬ (¬ entry.type = .hardware ∧ ¬ (entry.type = .sub ∧ '.' ∈ entry.interfaceName)) ↔
      entry.type = .hardware ∨ entry.type = .sub ∧ '.' ∈ entry.interfaceName := by
    rw [not_and_or, not_not, not_not]
  rw [SpanSource, ← kind, ← memif]
  unfold boyIsSpanSourceCandidate
  dsimp only
  split
  · rename_i other
    exact iff_of_false Bool.false_ne_true fun source => source.1 other
  · rename_i right
    split
    · rename_i loopback
      exact iff_of_false Bool.false_ne_true fun source => source.2.1 loopback
    · rename_i named
      split
      · rename_i memif
        exact iff_of_false Bool.false_ne_true fun source => source.2.2 memif
      · rename_i other
        exact iff_of_true rfl ⟨right, named, other⟩

theorem boyIsSpanSourceCandidate_eq (entry : BoyInterfaceEntry) :
    boyIsSpanSourceCandidate entry = decide (SpanSource entry) := by
  rw [Bool.eq_iff_iff, decide_eq_true_iff]
  exact boyIsSpanSourceCandidate_iff

theorem candidateRows_eq (interfaces : List BoyInterfaceEntry) (entries : List BoySpanEntry)
    (ifEntry : BoyInterfaceEntry) :
    candidateRows interfaces entries ifEntry =
      (candidateSubjects entries ifEntry).map (subjectRow interfaces) := by
  unfold candidateRows candidateSubjects
  split
  · rfl
  · rw [List.map_map]
    rfl

theorem filterMap_candidateSubjects (entries : List BoySpanEntry) (ifEntry : BoyInterfaceEntry) :
    (candidateSubjects entries ifEntry).filterMap Prod.snd = ownSpanEntries entries ifEntry := by
  unfold candidateSubjects
  split
  · rename_i none
    rw [none]
    rfl
  · rw [List.filterMap_map]
    exact List.filterMap_some

theorem mem_candidateSubjects {entries : List BoySpanEntry} {ifEntry ifEntry' : BoyInterfaceEntry}
    {o : Option BoySpanEntry} (h : (ifEntry', o) ∈ candidateSubjects entries ifEntry) :
    ifEntry' = ifEntry ∧ (o = none ∧ ownSpanEntries entries ifEntry = [] ∨
      ∃ entry ∈ ownSpanEntries entries ifEntry, o = some entry) := by
  unfold candidateSubjects at h
  split at h
  · rename_i none
    rw [List.mem_singleton, Prod.mk.injEq] at h
    exact ⟨h.1, .inl ⟨h.2, none⟩⟩
  · obtain ⟨entry, own, same⟩ := List.mem_map.mp h
    rw [Prod.mk.injEq] at same
    exact ⟨same.1.symm, .inr ⟨entry, own, same.2.symm⟩⟩

/-- What either of two tests that exclude each other lets through. -/
theorem filter_append_filter {α : Type} {p q : α → Bool} (apart : ∀ a, p a = true → q a = false)
    (l : List α) : (l.filter p ++ l.filter q).Perm (l.filter fun a => p a || q a) := by
  have first : (l.filter fun a => p a || q a).filter p = l.filter p := by
    rw [List.filter_filter]
    apply List.filter_congr
    intro a _
    cases p a <;> simp
  have second : ((l.filter fun a => p a || q a).filter fun a => !p a) = l.filter q := by
    rw [List.filter_filter]
    apply List.filter_congr
    intro a _
    cases hp : p a with
    | false => simp
    | true => simp [apart a hp]
  rw [← first, ← second]
  exact List.filter_append_perm p _

/-- With distinct indices no entry belongs to two interfaces. -/
theorem flatMap_ownSpanEntries {interfaces : List BoyInterfaceEntry} (entries : List BoySpanEntry)
    (indices : (interfaces.map (·.swIfIndex)).Nodup) :
    (interfaces.flatMap (ownSpanEntries entries)).Perm
      (entries.filter fun entry => interfaces.any fun ifEntry =>
        decide (ifEntry.swIfIndex = entry.swIfIndexFrom)) := by
  induction interfaces with
  | nil => simp
  | cons ifEntry rest ih =>
    rw [List.map_cons, List.nodup_cons] at indices
    rw [List.flatMap_cons]
    have own : ownSpanEntries entries ifEntry =
        entries.filter fun entry => decide (ifEntry.swIfIndex = entry.swIfIndexFrom) := by
      apply List.filter_congr
      intro entry _
      simp [eq_comm]
    rw [own]
    refine ((ih indices.2).append_left _).trans ?_
    apply filter_append_filter
    intro entry mine
    rw [decide_eq_true_eq] at mine
    rw [List.any_eq_false]
    intro other there same
    rw [decide_eq_true_eq] at same
    exact indices.1 (mine ▸ same ▸ List.mem_map_of_mem there)

theorem readSpanState_boySpanStateDevice {state : SpanState} (h : state ∈ [.rx, .tx, .rxTx]) :
    readSpanState (boySpanStateDevice state) = some state := by
  simp only [List.mem_cons, List.not_mem_nil, or_false] at h
  rcases h with rfl | rfl | rfl
  · rfl
  · rfl
  · rfl

/-- The two cells tell an entry's layer and state. -/
theorem readSpanCells_spanEntryRow (interfaces : List BoyInterfaceEntry)
    (ifEntry : BoyInterfaceEntry) {entry : BoySpanEntry} (h : entry.state ∈ [.rx, .tx, .rxTx]) :
    readSpanCells (deviceCell (spanEntryRow interfaces ifEntry entry))
      (l2Cell (spanEntryRow interfaces ifEntry entry)) = some (entry.isL2, entry.state) := by
  have read := readSpanState_boySpanStateDevice h
  have star : readSpanState "*".toList = none := rfl
  have device : deviceCell (spanEntryRow interfaces ifEntry entry) =
      if entry.isL2 then "*".toList else boySpanStateDevice entry.state := rfl
  have l2 : l2Cell (spanEntryRow interfaces ifEntry entry) =
      if entry.isL2 then boySpanStateDevice entry.state else "*".toList := rfl
  rw [device, l2]
  cases entry.isL2 with
  | true => simp only [↓reduceIte, readSpanCells, read, star]
  | false => simp only [Bool.false_eq_true, ↓reduceIte, readSpanCells, read]

/-- With distinct indices the name is that of the interface with this index. -/
theorem boyFindInterfaceName_of_mem {interfaces : List BoyInterfaceEntry}
    (indices : (interfaces.map (·.swIfIndex)).Nodup) {target : BoyInterfaceEntry}
    (there : target ∈ interfaces) :
    boyFindInterfaceName interfaces target.swIfIndex = target.interfaceName := by
  unfold boyFindInterfaceName
  cases found : interfaces.find? (·.swIfIndex = target.swIfIndex) with
  | none =>
    have no := List.find?_eq_none.1 found target there
    simp at no
  | some first =>
    have same : first.swIfIndex = target.swIfIndex := by simpa using List.find?_some found
    rw [List.inj_on_of_nodup_map indices (List.mem_of_find?_eq_some found) there same]

theorem boyFindInterfaceName_of_not_mem {interfaces : List BoyInterfaceEntry} {swIfIndex : UInt32}
    (missing : ∀ target ∈ interfaces, target.swIfIndex ≠ swIfIndex) :
    boyFindInterfaceName interfaces swIfIndex = "<unknown>".toList := by
  unfold boyFindInterfaceName
  rw [List.find?_eq_none.2 fun target there => by simpa using missing target there]

/-- The rows of any dumps list them. -/
theorem listsSpan_spanRows {interfaces : List BoyInterfaceEntry} (entries : List BoySpanEntry)
    (indices : (interfaces.map (·.swIfIndex)).Nodup) :
    ListsSpan interfaces entries (spanRows interfaces entries)
      ((interfaces.filter boyIsSpanSourceCandidate).flatMap (candidateSubjects entries)) := by
  have member {ifEntry : BoyInterfaceEntry} {o : Option BoySpanEntry}
      (h : (ifEntry, o) ∈ (interfaces.filter boyIsSpanSourceCandidate).flatMap
        (candidateSubjects entries)) :
      o = none ∧ ownSpanEntries entries ifEntry = [] ∨
        ∃ entry ∈ ownSpanEntries entries ifEntry, o = some entry := by
    obtain ⟨candidate, _, inside⟩ := List.mem_flatMap.mp h
    obtain ⟨rfl, which⟩ := mem_candidateSubjects inside
    exact which
  have source (l : List BoyInterfaceEntry) :
      l.filter boyIsSpanSourceCandidate = l.filter (SpanSource ·) :=
    List.filter_congr fun ifEntry _ => boyIsSpanSourceCandidate_eq ifEntry
  constructor
  · unfold spanRows
    rw [List.map_flatMap, funext (candidateRows_eq interfaces entries)]
  · rintro ⟨ifEntry, o⟩ _
    cases o with
    | none => exact ⟨_, _, _, rfl⟩
    | some entry => exact ⟨_, _, _, rfl⟩
  · rw [source]
  · rw [List.filterMap_flatMap]
    simp only [filterMap_candidateSubjects]
    have distinct : ((interfaces.filter boyIsSpanSourceCandidate).map (·.swIfIndex)).Nodup :=
      indices.sublist (List.filter_sublist.map _)
    apply (flatMap_ownSpanEntries entries distinct).trans
    apply List.Perm.of_eq
    apply List.filter_congr
    intro entry _
    rw [List.any_filter]
    simp only [boyIsSpanSourceCandidate_eq, Bool.decide_and]
  · intro ifEntry entry h
    rcases member h with ⟨no, _⟩ | ⟨entry', own, same⟩
    · cases no
    · rw [Option.some.inj same]
      simpa [ownSpanEntries] using own
  · intro ifEntry h
    refine ⟨?_, rfl, rfl, rfl⟩
    rcases member h with ⟨_, none⟩ | ⟨entry', own, no⟩
    · simpa [ownSpanEntries] using none
    · cases no
  · intro ifEntry entry h
    refine ⟨fun target there index => ?_, fun missing => ?_⟩
    · exact (congrArg _ index.symm).trans (boyFindInterfaceName_of_mem indices there)
    · exact boyFindInterfaceName_of_not_mem missing
  · exact fun ifEntry entry _ known => readSpanCells_spanEntryRow interfaces ifEntry known

/-- **The rows of `boy_show_span` are its dumps.** Whatever the dumps bring, if
the indices are distinct. -/
theorem span_rows_shown {tr : List BoyEvent} (run : Follows boyShowSpan tr 0) :
    ∃ ifs dev l2 table widths,
      visible tr = [⟨.swInterfaceDump, ifs⟩, ⟨.swInterfaceSpanDump false, dev⟩,
        ⟨.swInterfaceSpanDump true, l2⟩, ⟨.appTableRender table widths, ()⟩] ∧
      ((ifs.details.map (·.swIfIndex)).Nodup →
        ∃ subjects, ListsSpan (ifs.details.map interfaceEntry)
          (dev.details.map spanEntry ++ l2.details.map spanEntry) table.rows subjects) := by
  rcases follows_boyShowSpan run with ⟨no, _⟩ | ⟨_, ifs, dev, l2, table, widths, seen, _, _, rows⟩
  · cases no
  · refine ⟨ifs, dev, l2, table, widths, seen, fun indices => ?_⟩
    have distinct : ((ifs.details.map interfaceEntry).map (·.swIfIndex)).Nodup := by
      rw [List.map_map]
      exact indices
    rw [rows, ← List.map_append]
    exact ⟨_, listsSpan_spanRows _ distinct⟩

/-- Two entries of one source on both layers, one of them to no known interface,
and a source without any. -/
def layeredVpp : AnsweringVpp where
  interfaces := [sampleInterface 1 .hardware "eth0", sampleInterface 2 .hardware "eth1",
    sampleInterface 5 .hardware "memif0/0"]
  span :=
    ((∅ : AList fun _ : SpanKey => SpanState).insert ⟨1, 5, false⟩ .rx).insert ⟨1, 9, true⟩ .rxTx
  refusals := []

def layeredShown : List BoyEvent × AnsweringVpp × Int :=
  (layeredVpp.run boyShowSpan).get (by decide)

theorem layers_shown : ∃ table widths subjects,
    ⟨.appTableRender table widths, ()⟩ ∈ visible layeredShown.1 ∧
    ListsSpan (layeredVpp.interfaces.map interfaceEntry) [⟨1, 5, .rx, false⟩, ⟨1, 9, .rxTx, true⟩]
      table.rows subjects := by
  have run : Exec vppServe boyShowSpan layeredVpp.shown layeredShown.1 layeredShown.2.1.shown 0 :=
    AnsweringVpp.exec_run_eq _ (by decide)
  obtain ⟨ifs, dev, l2, table, widths, seen, lists⟩ := span_rows_shown run.follows
  have dumps : (visible layeredShown.1).take 3 =
    [⟨.swInterfaceDump, .listing layeredVpp.interfaces⟩,
      ⟨.swInterfaceSpanDump false, .listing [⟨1, 5, .rx, false⟩]⟩,
      ⟨.swInterfaceSpanDump true, .listing [⟨1, 9, .rxTx, true⟩]⟩] := rfl
  rw [seen] at dumps
  simp only [List.take_succ_cons, List.take_zero, List.cons.injEq, Event.mk.injEq, heq_eq_eq,
    true_and, and_true] at dumps
  obtain ⟨rfl, rfl, rfl⟩ := dumps
  obtain ⟨subjects, all⟩ := lists (by decide)
  simp only [VapiDump.details_listing] at all
  exact ⟨table, widths, subjects, by simp [seen], all⟩

end BeastieBoy
