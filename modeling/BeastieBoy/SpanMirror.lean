import BeastieBoy.AnsweringVpp
import BeastieBoy.SpanSet
import BeastieBoy.SpanShow

/-!
# What was set is shown

After a `boy_set_span` that returned 0, `boy_show_span` has one row for the
mirror if its source is a candidate. The other interfaces `boy_set_span` takes
for a source are not shown at all.
-/

namespace BeastieBoy

open CLib Interact

/-- The text of the field, up to its first NUL. -/
def SwInterfaceDetails.name (d : SwInterfaceDetails) : CString := (interfaceEntry d).interfaceName

/-- What `--device` is given. -/
def BoySpanDeviceMode.text : BoySpanDeviceMode → CString
  | .rx => "rx".toList
  | .tx => "tx".toList
  | .both => "both".toList

theorem boySpanStateDevice_deviceMode (deviceMode : BoySpanDeviceMode) :
    boySpanStateDevice (boySpanStateFromDeviceMode deviceMode) = deviceMode.text := by
  cases deviceMode with
  | rx => rfl
  | tx => rfl
  | both => rfl

/-- A row for a source and a destination without L2. -/
def Mirrors (source destination : CString) (row : SpanRow) : Prop :=
  row[0]? = some (some source) ∧ row[4]? = some (some destination) ∧
    row[6]? = some (some "*".toList)

instance (source destination : CString) (row : SpanRow) :
    Decidable (Mirrors source destination row) :=
  inferInstanceAs (Decidable (_ ∧ _))

/-! ## The join does not see the flags -/

theorem spanRows_fixed (interfaces : List SwInterfaceDetails) (entries : List BoySpanEntry) :
    spanRows ((interfaces.map (·.fixed)).map interfaceEntry) entries =
      spanRows (interfaces.map interfaceEntry) entries := by
  have names (i : UInt32) : boyFindInterfaceName ((interfaces.map (·.fixed)).map interfaceEntry) i =
      boyFindInterfaceName (interfaces.map interfaceEntry) i := by
    simp only [boyFindInterfaceName, List.map_map, List.find?_map]
    have same : (fun e : BoyInterfaceEntry => decide (e.swIfIndex = i)) ∘
      (interfaceEntry ∘ (·.fixed)) =
        (fun e : BoyInterfaceEntry => decide (e.swIfIndex = i)) ∘ interfaceEntry := rfl
    rw [same]
    cases interfaces.find? ((fun e => decide (e.swIfIndex = i)) ∘ interfaceEntry) with
    | none => rfl
    | some d => rfl
  have candidates : boyIsSpanSourceCandidate ∘ (interfaceEntry ∘ (·.fixed)) =
      boyIsSpanSourceCandidate ∘ interfaceEntry := rfl
  have rows (d : SwInterfaceDetails) :
      candidateRows ((interfaces.map (·.fixed)).map interfaceEntry) entries
        (interfaceEntry d.fixed) =
        candidateRows (interfaces.map interfaceEntry) entries (interfaceEntry d) := by
    have each (ifEntry : BoyInterfaceEntry) :
        spanEntryRow ((interfaces.map (·.fixed)).map interfaceEntry) ifEntry =
          spanEntryRow (interfaces.map interfaceEntry) ifEntry := by
      funext entry
      simp only [spanEntryRow, names]
    unfold candidateRows
    rw [each]
    rfl
  unfold spanRows
  rw [List.map_map, List.filter_map, List.filter_map, candidates, List.flatMap_map,
    List.flatMap_map]
  apply List.flatMap_congr
  intro d _
  rw [← List.map_map]
  exact rows d

theorem spanRows_congr {l l' : List SwInterfaceDetails} (h : l.map (·.fixed) = l'.map (·.fixed))
    (entries : List BoySpanEntry) :
    spanRows (l.map interfaceEntry) entries = spanRows (l'.map interfaceEntry) entries := by
  rw [← spanRows_fixed l, h, spanRows_fixed l']

/-! ## One row for one key -/

theorem filter_key_eq {α κ : Type} [DecidableEq κ] {l : List α} {key : α → κ}
    (nodup : (l.map key).Nodup) {a : α} (ha : a ∈ l) : l.filter (fun b => key b = key a) = [a] := by
  induction l with
  | nil => cases ha
  | cons b l ih =>
    rw [List.map_cons, List.nodup_cons] at nodup
    rcases List.mem_cons.mp ha with rfl | ha
    · rw [List.filter_cons_of_pos (by simp), List.filter_eq_nil_iff.2]
      intro c hc same
      exact nodup.1 (List.mem_map.mpr ⟨c, hc, of_decide_eq_true same⟩)
    · have other : key b ≠ key a := fun same => nodup.1 (List.mem_map.mpr ⟨a, ha, same.symm⟩)
      rw [List.filter_cons_of_neg (by simp [other]), ih nodup.2 ha]

theorem flatMap_eq_filter {α β : Type} {l : List α} {p : α → Bool} {f : α → List β}
    (h : ∀ a ∈ l, p a = false → f a = []) : l.flatMap f = (l.filter p).flatMap f := by
  induction l with
  | nil => rfl
  | cons a l ih =>
    rw [List.flatMap_cons, ih fun b hb => h b (List.mem_cons_of_mem _ hb)]
    cases hp : p a with
    | true => rw [List.filter_cons_of_pos hp, List.flatMap_cons]
    | false =>
      rw [List.filter_cons_of_neg (by simp [hp]), h a List.mem_cons_self hp]
      rfl

/-- What a layer holds for a key is listed once. -/
theorem Lists.filter_key {t : SpanTable} {isL2 : Bool} {ds : List SwInterfaceSpanDetails}
    (lists : Lists t isL2 ds) {key : SpanKey} {state : SpanState} (layer : key.isL2 = isL2)
    (there : t.lookup key = some state) :
    ds.filter (·.key = key) = [⟨key.swIfIndexFrom, key.swIfIndexTo, state, key.isL2⟩] := by
  let d : SwInterfaceSpanDetails := ⟨key.swIfIndexFrom, key.swIfIndexTo, state, key.isL2⟩
  have hd : d ∈ ds := (lists.mem_iff d).2 ⟨layer, there⟩
  exact filter_key_eq lists.nodup hd

theorem mem_of_boyFindInterfaceEntryByIndex {table : List BoyInterfaceEntry} {ifIndex : UInt32}
    {entry : BoyInterfaceEntry} (h : boyFindInterfaceEntryByIndex table ifIndex = some entry) :
    entry ∈ table ∧ entry.swIfIndex = ifIndex :=
  ⟨List.mem_of_find?_eq_some h, by simpa using List.find?_some h⟩

theorem mem_of_boyFindInterfaceEntryByName {table : List BoyInterfaceEntry} {name : CString}
    {entry : BoyInterfaceEntry} (h : boyFindInterfaceEntryByName table name = some entry) :
    entry ∈ table ∧ entry.interfaceName = name :=
  ⟨List.mem_of_find?_eq_some h, by simpa using List.find?_some h⟩

section Interfaces
variable {interfaces : List SwInterfaceDetails}

theorem spanTarget_eq_some {sourceIfIndex : UInt32} {destinationMemifName : CString} {key : SpanKey}
    (h : spanTarget (interfaces.map interfaceEntry) sourceIfIndex destinationMemifName = some key) :
    ∃ source ∈ interfaces, ∃ destination ∈ interfaces, source.swIfIndex = sourceIfIndex ∧
      destination.name = destinationMemifName ∧ namesMemif destinationMemifName = true ∧
      key = ⟨source.swIfIndex, destination.swIfIndex, false⟩ := by
  unfold spanTarget at h
  split at h
  · rename_i sourceEntry destinationEntry hs hd
    obtain ⟨there, index⟩ := mem_of_boyFindInterfaceEntryByIndex hs
    obtain ⟨there', name⟩ := mem_of_boyFindInterfaceEntryByName hd
    obtain ⟨source, inside, rfl⟩ := List.mem_map.mp there
    obtain ⟨destination, inside', rfl⟩ := List.mem_map.mp there'
    split at h
    · rename_i memif
      refine ⟨source, inside, destination, inside', index, name, ?_, (Option.some.inj h).symm⟩
      rw [← name]
      exact memif.1
    · cases h
  · cases h

/-- Among distinct interfaces a memif's name stands for its index. -/
theorem boyFindInterfaceName_eq_iff (indices : (interfaces.map (·.swIfIndex)).Nodup)
    (names : (interfaces.map (·.name)).Nodup) {destination : SwInterfaceDetails}
    (inside : destination ∈ interfaces) (memif : namesMemif destination.name = true) (i : UInt32) :
    boyFindInterfaceName (interfaces.map interfaceEntry) i = destination.name ↔
      i = destination.swIfIndex := by
  unfold boyFindInterfaceName
  constructor
  · intro h
    split at h
    · rename_i entry found
      obtain ⟨there, index⟩ := mem_of_boyFindInterfaceEntryByIndex found
      obtain ⟨d, hd, rfl⟩ := List.mem_map.mp there
      have same : d = destination := List.inj_on_of_nodup_map names hd inside h
      rw [← same]
      exact index.symm
    · rw [← h] at memif
      cases memif
  · rintro rfl
    have entry : interfaceEntry destination ∈ interfaces.map interfaceEntry :=
      List.mem_map_of_mem inside
    split
    · rename_i entry found
      obtain ⟨there, index⟩ := mem_of_boyFindInterfaceEntryByIndex found
      obtain ⟨d, hd, rfl⟩ := List.mem_map.mp there
      have same : d = destination := List.inj_on_of_nodup_map indices hd inside index
      rw [same]
      rfl
    · rename_i missing
      exact absurd (decide_eq_true rfl) (List.find?_eq_none.1 missing _ entry)

theorem boySpanStateL2_eq_star_iff (state : SpanState) (isL2 : Bool) :
    boySpanStateL2 state isL2 = "*".toList ↔ isL2 = false := by
  cases isL2 with
  | false => simp [boySpanStateL2]
  | true =>
    have text : boySpanStateDevice state ≠ "*".toList := by
      cases state with
      | rx => decide
      | tx => decide
      | rxTx => decide
      | disabled => decide
      | other code => exact (by decide : "none".toList ≠ "*".toList)
    exact ⟨fun h => absurd h text, fun h => nomatch h⟩

/-- Among a candidate's rows, those for a memif without L2 are those of the
entries with that key. -/
theorem candidateRows_mirrors (indices : (interfaces.map (·.swIfIndex)).Nodup)
    (names : (interfaces.map (·.name)).Nodup) {source destination : SwInterfaceDetails}
    (inside : destination ∈ interfaces) (memif : namesMemif destination.name = true)
    (entries : List BoySpanEntry) :
    (candidateRows (interfaces.map interfaceEntry) entries (interfaceEntry source)).filter
        (Mirrors source.name destination.name ·) =
      (entries.filter fun x => x.swIfIndexFrom = source.swIfIndex ∧
        x.swIfIndexTo = destination.swIfIndex ∧
        x.isL2 = false).map
          (spanEntryRow (interfaces.map interfaceEntry) (interfaceEntry source)) := by
  have shown (x : BoySpanEntry) :
      Mirrors source.name destination.name
          (spanEntryRow (interfaces.map interfaceEntry) (interfaceEntry source) x) ↔
        x.swIfIndexTo = destination.swIfIndex ∧ x.isL2 = false := by
    rw [← boyFindInterfaceName_eq_iff indices names inside memif,
      ← boySpanStateL2_eq_star_iff x.state x.isL2]
    simp [Mirrors, spanEntryRow, spanRow, SwInterfaceDetails.name]
  unfold candidateRows
  split
  · rename_i none
    have star : destination.name ≠ "*".toList := by
      intro same
      rw [same] at memif
      cases memif
    have placeholder : ¬ Mirrors source.name destination.name
        (noSpanEntryRow (interfaceEntry source)) := by
      rintro ⟨_, named, _⟩
      exact star (Option.some.inj (Option.some.inj named)).symm
    rw [List.filter_cons_of_neg (by simpa using placeholder), List.filter_nil,
      List.filter_eq_nil_iff.2]
    · rfl
    · intro x hx own
      rw [decide_eq_true_eq] at own
      have listed : x ∈ ownSpanEntries entries (interfaceEntry source) :=
        List.mem_filter.mpr ⟨hx, decide_eq_true own.1⟩
      rw [none] at listed
      cases listed
  · rw [List.filter_map, ownSpanEntries, List.filter_filter]
    congr 2
    funext x
    rw [Function.comp_apply, ← Bool.decide_and, decide_eq_decide, and_comm, shown]
    rfl

/-- The rows for one source and one memif without L2: those of the source's
entries with that key, if it is a candidate. -/
theorem spanRows_mirrors (indices : (interfaces.map (·.swIfIndex)).Nodup)
    (names : (interfaces.map (·.name)).Nodup) {source destination : SwInterfaceDetails}
    (inside : source ∈ interfaces) (inside' : destination ∈ interfaces)
    (memif : namesMemif destination.name = true) (entries : List BoySpanEntry) :
    (spanRows (interfaces.map interfaceEntry) entries).filter
      (Mirrors source.name destination.name ·) =
      if boyIsSpanSourceCandidate (interfaceEntry source) then
        (entries.filter fun x => x.swIfIndexFrom = source.swIfIndex ∧
          x.swIfIndexTo = destination.swIfIndex ∧ x.isL2 = false).map
          (spanEntryRow (interfaces.map interfaceEntry) (interfaceEntry source))
      else [] := by
  have entryNames : ((interfaces.map interfaceEntry).map (·.interfaceName)).Nodup := by
    rw [List.map_map]
    exact names
  have one : (interfaces.map interfaceEntry).filter (·.interfaceName = source.name) =
    [interfaceEntry source] :=
    filter_key_eq entryNames (List.mem_map_of_mem inside)
  have others : ∀ entry ∈ (interfaces.map interfaceEntry).filter boyIsSpanSourceCandidate,
      decide (entry.interfaceName = source.name) = false →
      (candidateRows (interfaces.map interfaceEntry) entries entry).filter
        (Mirrors source.name destination.name ·) = [] := by
    intro entry _ other
    rw [decide_eq_false_iff_not] at other
    apply List.filter_eq_nil_iff.2
    intro row hrow mirrors
    rw [decide_eq_true_eq] at mirrors
    apply other
    have first : row[0]? = some (some entry.interfaceName) := by
      unfold candidateRows at hrow
      split at hrow
      · rw [List.mem_singleton.mp hrow]
        rfl
      · obtain ⟨x, _, rfl⟩ := List.mem_map.mp hrow
        rfl
    have same := first.symm.trans mirrors.1
    simpa using same
  unfold spanRows
  rw [List.filter_flatMap, flatMap_eq_filter others, List.filter_comm, one]
  by_cases candidate : boyIsSpanSourceCandidate (interfaceEntry source) = true
  · rw [List.filter_cons_of_pos candidate, if_pos candidate, List.filter_nil, List.flatMap_cons,
      List.flatMap_nil, List.append_nil]
    exact candidateRows_mirrors indices names inside' memif entries
  · rw [List.filter_cons_of_neg candidate, if_neg candidate]
    rfl

end Interfaces

/-- The entries of two dumps with the key of a mirror: the one in the table. -/
theorem entries_of_key {t : SpanTable} {dev l2 : List SwInterfaceSpanDetails}
    (listsDev : Lists t false dev)
    (listsL2 : Lists t true l2) {source destination : UInt32} {state : SpanState}
    (there : t.lookup ⟨source, destination, false⟩ = some state) :
    ((dev ++ l2).map spanEntry).filter
        (fun x => x.swIfIndexFrom = source ∧ x.swIfIndexTo = destination ∧ x.isL2 = false) =
      [⟨source, destination, state, false⟩] := by
  have key : (fun x : BoySpanEntry => decide (x.swIfIndexFrom = source ∧
    x.swIfIndexTo = destination ∧
      x.isL2 = false)) ∘ spanEntry = fun d => decide (d.key = ⟨source, destination, false⟩) := by
    funext d
    rw [Function.comp_apply, decide_eq_decide, SwInterfaceSpanDetails.key, SpanKey.mk.injEq]
    rfl
  have layer : l2.filter (fun d => decide (d.key = ⟨source, destination, false⟩)) = [] := by
    apply List.filter_eq_nil_iff.2
    intro d hd same
    have isL2 := congrArg SpanKey.isL2 (of_decide_eq_true same)
    have other := ((listsL2.mem_iff d).1 hd).1
    exact Bool.noConfusion (isL2.symm.trans other)
  rw [List.filter_map, key, List.filter_append, listsDev.filter_key rfl there, layer]
  rfl

/-- **What `boy_set_span` set, `boy_show_span` shows, for a candidate.** With
distinct indices and names, a show that returns 0 right after a set that
returned 0 renders one table. If the source is a candidate, exactly one of its
rows is for that source and that memif without L2, and it has the requested mode
in the cell for the device; if it is not, none is. -/
theorem mirror_shown {sourceIfIndex : UInt32} {destinationMemifName : CString}
    {deviceMode : BoySpanDeviceMode} {w w' w'' : Vpp} {tr tr' : List BoyEvent}
    (indices : (w.interfaces.map (·.swIfIndex)).Nodup) (names : (w.interfaces.map (·.name)).Nodup)
    (set : Exec vppServe (boySetSpan sourceIfIndex destinationMemifName deviceMode) w tr w' 0)
    (shown : Exec vppServe boyShowSpan w' tr' w'' 0) :
    ∃ source ∈ w.interfaces, source.swIfIndex = sourceIfIndex ∧
      ∃ table, tr'.filterMap renderedTable = [table] ∧
        table.rows.filter (Mirrors source.name destinationMemifName ·) =
          if boyIsSpanSourceCandidate (interfaceEntry source) then
            [spanRow (interfaceEntry source) destinationMemifName deviceMode.text "*".toList]
          else [] := by
  rcases follows_boySetSpan set.follows with ⟨one, _⟩ | ⟨ifs, asked, complete,
    ⟨_, one, _⟩ | ⟨key, target, _, written⟩⟩
  · cases one
  · cases one
  obtain ⟨t₁, t₂, rfl⟩ := List.append_of_mem asked
  rw [spanTarget_congr (interfaces_of_serves _ set.serves complete)] at target
  obtain ⟨source, inside, destination, inside', index, rfl, memif, rfl⟩ := spanTarget_eq_some target
  have there : w'.span.lookup ⟨source.swIfIndex, destination.swIfIndex, false⟩ =
      some (boySpanStateFromDeviceMode deviceMode) := by
    rw [span_of_serves set.serves, written, Store.writes_cons, Store.writes_nil, Store.lookup_write,
      if_pos rfl]
  refine ⟨source, inside, index, ?_⟩
  rcases follows_boyShowSpan shown.follows with ⟨one, _⟩ | ⟨_, ifs', dev, l2, table, _, seen,
    completes, _, rows⟩
  · cases one
  obtain ⟨complete', completeDev, completeL2⟩ := completes
  have served := serves_visible shown.serves
  rw [seen] at served
  have listed := interfaces_of_serves [] served complete'
  rw [fixed_of_serves set.serves] at listed
  have listsDev : Lists w'.span false dev.details :=
    lists_of_serves [⟨.swInterfaceDump, ifs'⟩] served completeDev
  have listsL2 : Lists w'.span true l2.details :=
    lists_of_serves [⟨.swInterfaceDump, ifs'⟩, ⟨.swInterfaceSpanDump false, dev⟩] served completeL2
  refine ⟨table, ?_, ?_⟩
  · rw [← renderedTable_visible, seen]
    rfl
  rw [rows, spanRows_congr listed, spanRows_mirrors indices names inside inside' memif,
    entries_of_key listsDev listsL2 there]
  have row : spanEntryRow (w.interfaces.map interfaceEntry) (interfaceEntry source)
      ⟨source.swIfIndex, destination.swIfIndex, boySpanStateFromDeviceMode deviceMode, false⟩ =
      spanRow (interfaceEntry source) destination.name deviceMode.text "*".toList := by
    have name :=
      (boyFindInterfaceName_eq_iff indices names inside' memif destination.swIfIndex).2 rfl
    simp [spanEntryRow, name, boySpanStateDevice_deviceMode, boySpanStateL2]
  rw [List.map_cons, List.map_nil, row]

/-! A hardware source, and a memif for a source. -/

def mirrorVpp : AnsweringVpp where
  interfaces := [sampleInterface 1 .hardware "eth0", sampleInterface 2 .hardware "eth1",
    sampleInterface 5 .hardware "memif0/0", sampleInterface 6 .hardware "memif0/1"]
  span := (∅ : AList fun _ : SpanKey => SpanState).insert ⟨1, 6, false⟩ .rx
  refusals := []

def hardwareSet : List BoyEvent × AnsweringVpp × Int :=
  (mirrorVpp.run (boySetSpan 1 "memif0/0".toList .both)).get (by decide)

def hardwareShown : List BoyEvent × AnsweringVpp × Int :=
  (hardwareSet.2.1.run boyShowSpan).get (by decide)

def memifSet : List BoyEvent × AnsweringVpp × Int :=
  (mirrorVpp.run (boySetSpan 6 "memif0/0".toList .both)).get (by decide)

def memifShown : List BoyEvent × AnsweringVpp × Int :=
  (memifSet.2.1.run boyShowSpan).get (by decide)

theorem hardware_mirror_shown : ∃ table, hardwareShown.1.filterMap renderedTable = [table] ∧
    table.rows.filter (Mirrors "eth0".toList "memif0/0".toList ·) =
      [spanRow (interfaceEntry (sampleInterface 1 .hardware "eth0")) "memif0/0".toList "both".toList
        "*".toList] := by
  have set : Exec vppServe (boySetSpan 1 "memif0/0".toList .both) mirrorVpp.shown hardwareSet.1
      hardwareSet.2.1.shown 0 := AnsweringVpp.exec_run_eq _ (by decide)
  have shown : Exec vppServe boyShowSpan hardwareSet.2.1.shown hardwareShown.1
    hardwareShown.2.1.shown 0 :=
    AnsweringVpp.exec_run_eq _ (by decide)
  obtain ⟨source, inside, index, table, rendered, rows⟩ :=
    mirror_shown (by decide) (by decide) set shown
  have first : source = sampleInterface 1 .hardware "eth0" :=
    List.inj_on_of_nodup_map (f := (·.swIfIndex)) (by decide) inside (by decide) index
  subst first
  exact ⟨table, rendered, rows⟩

/-- `boy_set_span` takes a memif for a source; `boy_show_span` does not list it. -/
theorem memif_source_hidden :
    Exec vppServe (boySetSpan 6 "memif0/0".toList .both) mirrorVpp.shown memifSet.1
      memifSet.2.1.shown 0 ∧
      Exec vppServe boyShowSpan memifSet.2.1.shown memifShown.1 memifShown.2.1.shown 0 ∧
      (mirrorVpp.interfaces.map (·.swIfIndex)).Nodup ∧ (mirrorVpp.interfaces.map (·.name)).Nodup ∧
      (memifShown.1.filterMap renderedTable).map
        (·.rows.filter (Mirrors "memif0/1".toList "memif0/0".toList ·)) = [[]] :=
  ⟨AnsweringVpp.exec_run_eq _ (by decide), AnsweringVpp.exec_run_eq _ (by decide),
    by decide, by decide, by decide⟩

end BeastieBoy
