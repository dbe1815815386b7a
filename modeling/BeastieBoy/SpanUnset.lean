import BeastieBoy.AnsweringVpp
import BeastieBoy.SpanTrace

/-!
# Removing the SPAN entries of a source

`boy_unset_span` lists the table, first the entries of the device, then those of
the L2 layer, and disables the entries of its source in that order until one
request is not acknowledged. Whatever happens it leaves the table without a
first part of these entries, and nothing else changed; so a run that goes
through removes the rest.
-/

namespace BeastieBoy

open CLib Interact Interact.Prog

def SpanKey.removal (key : SpanKey) : Write SpanKey SpanState := ⟨key, none⟩

/-- The request to disable an entry, with its answer. -/
def disabling (key : SpanKey) (answer : VapiAnswer) : BoyEvent :=
  ⟨.swInterfaceSpanEnableDisable key.swIfIndexFrom key.swIfIndexTo .disabled key.isL2, answer⟩

/-- The requests for some keys in order, until one is not acknowledged, or until
there is no message for one. The number is that of the keys, if none was left
out. -/
inductive Disables : List SpanKey → List BoyEvent → Option Nat → Prop
  | done : Disables [] [] (some 0)
  | abandoned (keys : List SpanKey) : Disables keys [] none
  | refused (key : SpanKey) (keys : List SpanKey) {answer : VapiAnswer} (bad : ¬ answer.Acked) :
      Disables (key :: keys) [disabling key answer] none
  | acked (key : SpanKey) {keys : List SpanKey} {answer : VapiAnswer} {evs : List BoyEvent}
      {n : Option Nat} (good : answer.Acked) (rest : Disables keys evs n) :
      Disables (key :: keys) (disabling key answer :: evs) (n.map (· + 1))

theorem spanRequests_disabling (key : SpanKey) (answer : VapiAnswer) (evs : List BoyEvent) :
    spanRequests (disabling key answer :: evs) = (key.removal, answer) :: spanRequests evs := rfl

theorem spanWrites_disabling (key : SpanKey) (answer : VapiAnswer) (evs : List BoyEvent) :
    spanWrites (disabling key answer :: evs) =
      if answer.Acked then key.removal :: spanWrites evs else spanWrites evs := by
  by_cases acked : answer.Acked
  · rw [if_pos acked, spanWrites, spanRequests_disabling, List.filterMap_cons_some]
    · rfl
    · exact if_pos acked
  · rw [if_neg acked, spanWrites, spanRequests_disabling, List.filterMap_cons_none]
    · rfl
    · exact if_neg acked

theorem Disables.requests {keys : List SpanKey} {evs : List BoyEvent} {o : Option Nat}
    (h : Disables keys evs o) : ∀ e ∈ evs, ∃ key answer, e = disabling key answer := by
  induction h with
  | done => simp
  | abandoned keys => simp
  | refused key keys bad =>
    intro e he
    exact ⟨key, _, List.mem_singleton.mp he⟩
  | acked key good rest ih =>
    intro e he
    rcases List.mem_cons.mp he with rfl | he
    · exact ⟨key, _, rfl⟩
    · exact ih e he

theorem Disables.all {keys : List SpanKey} {evs : List BoyEvent} {o : Option Nat}
    (h : Disables keys evs o) {n : Nat} (ho : o = some n) :
    n = keys.length ∧ spanWrites evs = keys.map SpanKey.removal := by
  induction h generalizing n with
  | done => exact ⟨(Option.some.inj ho).symm, rfl⟩
  | abandoned keys => cases ho
  | refused key keys bad => cases ho
  | acked key good rest ih =>
    obtain ⟨m, hm, rfl⟩ := Option.map_eq_some_iff.1 ho
    obtain ⟨rfl, writes⟩ := ih hm
    exact ⟨rfl, by rw [spanWrites_disabling, if_pos good, writes, List.map_cons]⟩

theorem Disables.upTo {keys : List SpanKey} {evs : List BoyEvent} {o : Option Nat}
    (h : Disables keys evs o) : ∃ n, spanWrites evs = (keys.take n).map SpanKey.removal := by
  induction h with
  | done => exact ⟨0, rfl⟩
  | abandoned keys => exact ⟨0, rfl⟩
  | refused key keys bad =>
    refine ⟨0, ?_⟩
    rw [spanWrites_disabling, if_neg bad]
    rfl
  | acked key good rest ih =>
    obtain ⟨n, writes⟩ := ih
    refine ⟨n + 1, ?_⟩
    rw [spanWrites_disabling, if_pos good, writes, List.take_succ_cons, List.map_cons]

/-- A request that is not acknowledged is the last one. -/
theorem Disables.until {keys : List SpanKey} {evs : List BoyEvent} {o : Option Nat}
    (h : Disables keys evs o) {k : Nat} {write : Write SpanKey SpanState} {answer : VapiAnswer}
    (hk : (spanRequests evs)[k]? = some (write, answer)) (bad : ¬ answer.Acked) :
    o = none ∧ k < keys.length ∧ keys[k]?.map SpanKey.removal = some write ∧
      spanWrites evs = (keys.take k).map SpanKey.removal := by
  induction h generalizing k with
  | done => cases hk
  | abandoned keys => cases hk
  | @refused key keys answer' bad' =>
    cases k with
    | zero =>
      cases hk
      refine ⟨rfl, Nat.zero_lt_succ _, rfl, ?_⟩
      rw [spanWrites_disabling, if_neg bad]
      rfl
    | succ k =>
      rw [spanRequests_disabling] at hk
      cases hk
  | acked key good rest ih =>
    rw [spanRequests_disabling] at hk
    cases k with
    | zero =>
      cases hk
      exact absurd good bad
    | succ k =>
      obtain ⟨rfl, lt, asked, writes⟩ := ih hk
      refine ⟨rfl, Nat.succ_lt_succ lt, asked, ?_⟩
      rw [spanWrites_disabling, if_pos good, writes, List.take_succ_cons, List.map_cons]

def BoySpanEntry.key (entry : BoySpanEntry) : SpanKey :=
  ⟨entry.swIfIndexFrom, entry.swIfIndexTo, entry.isL2⟩

/-- The keys of one source, in their order. -/
def keysFrom (sourceIfIndex : UInt32) (keys : List SpanKey) : List SpanKey :=
  keys.filter (·.swIfIndexFrom = sourceIfIndex)

theorem follows_unsetSpanEntries {interfaces : List BoyInterfaceEntry} {sourceIfIndex : UInt32}
    {entries : List BoySpanEntry} {removed : Nat} (small : removed < 2 ^ 64) {tr : List BoyEvent}
    {o : Option Nat}
    (h : Follows (unsetSpanEntries interfaces sourceIfIndex entries removed).run tr o) :
    ∃ n, Disables (keysFrom sourceIfIndex (entries.map (·.key))) (visible tr) n ∧
      o = n.map fun n => (removed + n) % 2 ^ 64 := by
  induction entries generalizing removed tr with
  | nil =>
    obtain ⟨rfl, rfl⟩ := follows_done_iff.1 h
    exact ⟨some 0, .done, congrArg some (Nat.mod_eq_of_lt small).symm⟩
  | cons entry entries ih =>
    unfold unsetSpanEntries at h
    split at h
    · rename_i other
      have skip : keysFrom sourceIfIndex ((entry :: entries).map (·.key)) =
          keysFrom sourceIfIndex (entries.map (·.key)) := by
        simp [keysFrom, BoySpanEntry.key, other]
      rw [skip]
      exact ih small h
    · rename_i same
      rw [not_not] at same
      have first : keysFrom sourceIfIndex ((entry :: entries).map (·.key)) =
          entry.key :: keysFrom sourceIfIndex (entries.map (·.key)) := by
        simp [keysFrom, BoySpanEntry.key, same]
      rw [first]
      obtain ⟨t₁, t₂, rfl, logged, h₂⟩ := follows_lift_bind h
      obtain rfl := follows_boyLog logged
      rw [visible_append, show visible [_] = [] from rfl, List.nil_append]
      rcases follows_attempt_iff.1 h₂ with ⟨h₃, rfl⟩ | ⟨t₃, _, t₄, rfl, h₃, h₄⟩
      · obtain ⟨rc, hrc, ho⟩ := follows_unlessZero h₃
        rcases follows_boySetSpanEntry hrc with ⟨nothing, _⟩ | ⟨answer, asked, verdict⟩
        · exact ⟨none, nothing ▸ .abandoned _, rfl⟩
        · rcases verdict with ⟨_, rfl⟩ | ⟨bad, _⟩
          · simp at ho
          · exact ⟨none, asked ▸ .refused entry.key _ bad, rfl⟩
      · obtain ⟨rc, hrc, ho⟩ := follows_unlessZero h₃
        have zero : rc = 0 := by
          rcases ho with ⟨_, no⟩ | ⟨zero, _⟩
          · cases no
          · exact zero
        rcases follows_boySetSpanEntry hrc with ⟨_, one⟩ | ⟨answer, asked, verdict⟩
        · simp [zero] at one
        · rcases verdict with ⟨good, _⟩ | ⟨_, one⟩
          · obtain ⟨n, disables, rfl⟩ := ih (Nat.mod_lt _ (by decide)) h₄
            refine ⟨n.map (· + 1), ?_, ?_⟩
            · rw [visible_append, asked]
              exact .acked entry.key good disables
            · cases n with
              | none => rfl
              | some n => simp [Nat.add_assoc, Nat.add_comm 1 n]
          · simp [zero] at one

theorem follows_reportRemoved {removed : Nat} {sourceIfIndex : UInt32} {sourceName : CString}
    {tr : List BoyEvent} {u : Unit}
    (h : Follows (reportRemoved removed sourceIfIndex sourceName) tr u) :
    ∃ report, visible tr = [report] ∧ removedReport report = some removed ∧
      spanRequests [report] = [] := by
  unfold reportRemoved at h
  split at h
  · rename_i zero
    obtain ⟨r, t, rfl, hr⟩ := follows_call_iff.1 h
    obtain ⟨rfl, rfl⟩ := follows_done_iff.1 hr
    exact ⟨_, rfl, congrArg some zero.symm, rfl⟩
  · obtain ⟨r, t, rfl, hr⟩ := follows_call_iff.1 h
    obtain ⟨rfl, rfl⟩ := follows_done_iff.1 hr
    exact ⟨_, rfl, rfl, rfl⟩

/-- What a run of `boy_unset_span` shows, behind its dumps. -/
def Unsets (sourceIfIndex : UInt32) (keys : List SpanKey) (evs : List BoyEvent) (rc : Int) : Prop :=
  ∃ requests reports n, evs = requests ++ reports ∧
    Disables (keysFrom sourceIfIndex keys) requests n ∧
    (n = none ∧ reports = [] ∧ rc = 1 ∨
      ∃ m report, n = some m ∧ reports = [report] ∧ rc = 0 ∧
        removedReport report = some (m % 2 ^ 64) ∧ spanRequests [report] = [])

theorem follows_boyUnsetSpan {sourceIfIndex : UInt32} {tr : List BoyEvent} {rc : Int}
    (h : Follows (boyUnsetSpan sourceIfIndex) tr rc) :
    OnlyDumps tr ∧ rc = 1 ∨
      ∃ ifs dev l2 evs,
        visible tr = ⟨.swInterfaceDump, ifs⟩ :: ⟨.swInterfaceSpanDump false, dev⟩ ::
          ⟨.swInterfaceSpanDump true, l2⟩ :: evs ∧
        (¬ ifs.Failed ∧ ¬ dev.Failed ∧ ¬ l2.Failed) ∧
        Unsets sourceIfIndex ((dev.details ++ l2.details).map (·.key)) evs rc := by
  rcases follows_withVapi h with ⟨nothing, rfl, _⟩ | ⟨t, finished, seen, -, body, rfl⟩
  · exact .inl ⟨onlyDumps_of_nil nothing, rfl⟩
  rw [seen]
  unfold OnlyDumps
  rw [seen]
  rcases follows_collectAll body with
    ⟨dumps, rfl⟩ | ⟨ifs, dev, l2, interfaces, entries, t', shown, complete, -, listed, rest⟩
  · exact .inl ⟨dumps, rfl⟩
  refine .inr ⟨ifs, dev, l2, visible t', shown, complete, ?_⟩
  have keys : entries.entries.map (·.key) = (dev.details ++ l2.details).map (·.key) := by
    rw [listed, List.map_map]
    rfl
  rw [← keys]
  rcases follows_attempt_iff.1 rest with ⟨h₁, rfl⟩ | ⟨t₁, removed, t₂, rfl, h₁, h₂⟩
  · obtain ⟨n, disables, none⟩ := follows_unsetSpanEntries (by decide) h₁
    have left_out : n = .none := by
      cases n with
      | none => rfl
      | some m => cases none
    exact ⟨visible t', [], n, by simp, disables, .inl ⟨left_out, rfl, rfl⟩⟩
  · obtain ⟨n, disables, some⟩ := follows_unsetSpanEntries (by decide) h₁
    obtain ⟨m, rfl, count⟩ := Option.map_eq_some_iff.1 some.symm
    obtain ⟨u, rfl, reported⟩ := follows_lift_iff.1 h₂
    obtain ⟨report, shown, counted, quiet⟩ := follows_reportRemoved reported
    refine ⟨visible t₁, [report], _, by rw [visible_append, shown], disables,
      .inr ⟨m, report, rfl, rfl, rfl, ?_, quiet⟩⟩
    rw [counted, ← count, Nat.zero_add]

theorem boyUnsetSpan_succeeds (sourceIfIndex : UInt32) :
    Succeeds (· = 0) (boyUnsetSpan sourceIfIndex) := by
  have walk (interfaces : List BoyInterfaceEntry) (entries : List BoySpanEntry) (removed : Nat) :
      Succeeds (·.isSome = true) (unsetSpanEntries interfaces sourceIfIndex entries
        removed).run := by
    induction entries generalizing removed with
    | nil => rfl
    | cons entry entries ih =>
      unfold unsetSpanEntries
      split
      · exact ih removed
      · apply attempt_succeeds (lift_succeeds _)
        intro _
        apply attempt_succeeds (unlessZero_succeeds (boySetSpanEntry_succeeds _ _ _ _))
        exact fun _ => ih _
  apply withVapi_succeeds
  apply attempt_succeeds (orCleanup_succeeds (boyCollectInterfaces_succeeds _))
  intro interfaces
  apply attempt_succeeds (orCleanup_succeeds (boyCollectSpan_succeeds _ _))
  intro entries
  apply attempt_succeeds (orCleanup_succeeds (boyCollectSpan_succeeds _ _))
  intro entries
  apply attempt_succeeds (walk _ _ _)
  exact fun removed => lift_succeeds _

/-! ## Against VPP -/

/-- The keys the dumps of a run list, in their order. -/
def dumpOrder (tr : List BoyEvent) : List SpanKey :=
  (tr.filterMap fun
    | ⟨.swInterfaceSpanDump _, dump⟩ => some (dump.details.map (·.key))
    | _ => none).flatten

theorem dumpOrder_visible (tr : List BoyEvent) : dumpOrder (visible tr) = dumpOrder tr := by
  unfold dumpOrder
  rw [filterMap_visible]
  rintro ⟨c, r⟩ hidden
  cases c with
  | swInterfaceSpanDump => cases hidden
  | _ => rfl

/-- Two complete dumps list each entry of the table once. -/
structure Listed (t : SpanTable) (keys : List SpanKey) : Prop where
  nodup : keys.Nodup
  mem_iff : ∀ key, key ∈ keys ↔ key ∈ t

theorem listed_of_lists {t : SpanTable} {dev l2 : List SwInterfaceSpanDetails}
    (hdev : Lists t false dev) (hl2 : Lists t true l2) : Listed t ((dev ++ l2).map (·.key)) where
  nodup := by
    rw [List.map_append]
    refine List.nodup_append.2 ⟨hdev.nodup, hl2.nodup, ?_⟩
    rintro key hkey _ hkey' rfl
    obtain ⟨d, hd, rfl⟩ := List.mem_map.mp hkey
    obtain ⟨d', hd', same⟩ := List.mem_map.mp hkey'
    have layer : d'.isL2 = d.isL2 := congrArg SpanKey.isL2 same
    rw [((hdev.mem_iff d).1 hd).1, ((hl2.mem_iff d').1 hd').1] at layer
    cases layer
  mem_iff key := by
    constructor
    · intro h
      obtain ⟨d, hd, rfl⟩ := List.mem_map.mp h
      rcases List.mem_append.mp hd with hd | hd
      · exact Finmap.mem_of_lookup_eq_some ((hdev.mem_iff d).1 hd).2
      · exact Finmap.mem_of_lookup_eq_some ((hl2.mem_iff d).1 hd).2
    · intro h
      obtain ⟨state, hstate⟩ := Finmap.mem_iff.1 h
      apply List.mem_map.mpr
      refine ⟨⟨key.swIfIndexFrom, key.swIfIndexTo, state, key.isL2⟩, List.mem_append.mpr ?_, rfl⟩
      cases layer : key.isL2 with
      | false => exact .inl ((hdev.mem_iff _).2 ⟨rfl, layer ▸ hstate⟩)
      | true => exact .inr ((hl2.mem_iff _).2 ⟨rfl, layer ▸ hstate⟩)

theorem Unsets.dumpOrder {sourceIfIndex : UInt32} {keys : List SpanKey} {evs : List BoyEvent}
    {rc : Int} (h : Unsets sourceIfIndex keys evs rc) : dumpOrder evs = [] := by
  obtain ⟨requests, reports, n, rfl, disables, ending⟩ := h
  have quiet : ∀ e ∈ requests ++ reports, ∀ isL2, e.call ≠ .swInterfaceSpanDump isL2 := by
    intro e he isL2
    rcases List.mem_append.mp he with he | he
    · obtain ⟨key, answer, rfl⟩ := disables.requests e he
      exact nofun
    · rcases ending with ⟨_, rfl, _⟩ | ⟨m, report, _, rfl, _, counted, _⟩
      · cases he
      · obtain ⟨c, r⟩ := report
        obtain rfl := List.mem_singleton.mp he
        rintro rfl
        cases counted
  unfold BeastieBoy.dumpOrder
  rw [List.filterMap_eq_nil_iff.2]
  · rfl
  · rintro ⟨c, r⟩ he
    cases c with
    | swInterfaceSpanDump isL2 => exact absurd rfl (quiet _ he isL2)
    | _ => rfl

theorem Disables.unreported {keys : List SpanKey} {evs : List BoyEvent} {o : Option Nat}
    (h : Disables keys evs o) : evs.filterMap removedReport = [] := by
  apply List.filterMap_eq_nil_iff.2
  intro e he
  obtain ⟨key, answer, rfl⟩ := h.requests e he
  rfl

/-- A run stops before its first request, or it lists the table and disables the
entries of its source in the order of the dumps. -/
theorem exec_boyUnsetSpan {sourceIfIndex : UInt32} {w w' : Vpp} {tr : List BoyEvent} {rc : Int}
    (h : Exec vppServe (boyUnsetSpan sourceIfIndex) w tr w' rc) :
    spanRequests tr = [] ∧ w'.span = w.span ∧ rc = 1 ∨
      ∃ requests n, Listed w.span (dumpOrder tr) ∧
        Disables (keysFrom sourceIfIndex (dumpOrder tr)) requests n ∧
        spanRequests tr = spanRequests requests ∧ w'.span = w.span.writes (spanWrites requests) ∧
        (n = none ∧ rc = 1 ∨ ∃ m, n = some m ∧ rc = 0 ∧
          tr.filterMap removedReport = [m % 2 ^ 64]) := by
  have written := span_of_serves h.serves
  rcases follows_boyUnsetSpan h.follows with ⟨dumps, one⟩ | ⟨ifs, dev, l2, evs, shown,
    complete, unsets⟩
  · refine .inl ⟨dumps.spanRequests, ?_, one⟩
    rw [written, spanWrites, dumps.spanRequests]
    rfl
  have served := serves_visible h.serves
  rw [shown] at served
  have lists : Lists w.span false dev.details :=
    lists_of_serves [⟨.swInterfaceDump, ifs⟩] served complete.2.1
  have lists' : Lists w.span true l2.details :=
    lists_of_serves [⟨.swInterfaceDump, ifs⟩, ⟨.swInterfaceSpanDump false, dev⟩] served complete.2.2
  have order : dumpOrder tr = (dev.details ++ l2.details).map (·.key) := by
    have later := unsets.dumpOrder
    rw [← dumpOrder_visible, shown, List.map_append]
    unfold dumpOrder at later ⊢
    simp [later]
  have asked : spanRequests tr = spanRequests evs := by
    rw [← spanRequests_visible, shown]
    rfl
  have reported : tr.filterMap removedReport = evs.filterMap removedReport := by
    rw [← removedReport_visible, shown]
    rfl
  rw [← order] at unsets
  obtain ⟨requests, reports, n, rfl, disables, ending⟩ := unsets
  have quiet : spanRequests reports = [] := by
    rcases ending with ⟨_, rfl, _⟩ | ⟨_, _, _, rfl, _, _, quiet⟩
    · rfl
    · exact quiet
  rw [spanRequests_append, quiet, List.append_nil] at asked
  refine .inr ⟨requests, n, order ▸ listed_of_lists lists lists', disables, asked, ?_, ?_⟩
  · rw [written, spanWrites, asked]
    rfl
  · rcases ending with ⟨none, _, one⟩ | ⟨m, report, some, rfl, zero, counted, _⟩
    · exact .inl ⟨none, one⟩
    · refine .inr ⟨m, some, zero, ?_⟩
      rw [reported, List.filterMap_append, disables.unreported, List.nil_append,
        List.filterMap_cons_some counted, List.filterMap_nil]

/-- Nothing left of one source, everything else as it was. -/
def Without (sourceIfIndex : UInt32) (t t' : SpanTable) : Prop :=
  ∀ key, t'.lookup key = if key.swIfIndexFrom = sourceIfIndex then none else t.lookup key

/-- The table without some of its entries. -/
def Removed (keys : List SpanKey) (t t' : SpanTable) : Prop :=
  ∀ key, t'.lookup key = if key ∈ keys then none else t.lookup key

theorem removed_writes (t : SpanTable) (keys : List SpanKey) :
    Removed keys t (t.writes (keys.map SpanKey.removal)) :=
  fun key => Store.lookup_removals t keys key

theorem Listed.mem_keysFrom {t : SpanTable} {keys : List SpanKey} (h : Listed t keys)
    (sourceIfIndex : UInt32) (key : SpanKey) :
    key ∈ keysFrom sourceIfIndex keys ↔ key.swIfIndexFrom = sourceIfIndex ∧ key ∈ t := by
  simp [keysFrom, h.mem_iff, and_comm]

theorem Listed.without {t t' : SpanTable} {keys : List SpanKey} (h : Listed t keys)
    {sourceIfIndex : UInt32} (gone : Removed (keysFrom sourceIfIndex keys) t t') :
    Without sourceIfIndex t t' := by
  intro key
  rw [gone key]
  by_cases same : key.swIfIndexFrom = sourceIfIndex
  · by_cases there : key ∈ t
    · rw [if_pos ((h.mem_keysFrom _ key).2 ⟨same, there⟩), if_pos same]
    · rw [if_neg (fun hk => there ((h.mem_keysFrom _ key).1 hk).2), if_pos same,
        Finmap.lookup_eq_none.2 there]
  · rw [if_neg (fun hk => same ((h.mem_keysFrom _ key).1 hk).1), if_neg same]

/-- What was removed before of the same source makes no difference. -/
theorem Without.after {t t' t'' : SpanTable} {keys : List SpanKey} {sourceIfIndex : UInt32}
    (own : ∀ key ∈ keys, key.swIfIndexFrom = sourceIfIndex) (partly : Removed keys t t')
    (rest : Without sourceIfIndex t' t'') : Without sourceIfIndex t t'' := by
  intro key
  rw [rest key]
  by_cases same : key.swIfIndexFrom = sourceIfIndex
  · rw [if_pos same, if_pos same]
  · rw [if_neg same, if_neg same, partly key, if_neg fun hk => same (own key hk)]

/-- There are few enough entries of one source to count them. -/
theorem length_keysFrom {t : SpanTable} {keys : List SpanKey} (h : Listed t keys)
    (sourceIfIndex : UInt32) :
    (keysFrom sourceIfIndex keys).length = (t.keys.filter (·.swIfIndexFrom = sourceIfIndex)).card ∧
      (keysFrom sourceIfIndex keys).length < 2 ^ 64 := by
  have nodup : (keysFrom sourceIfIndex keys).Nodup := h.nodup.filter _
  constructor
  · rw [← List.toFinset_card_of_nodup nodup]
    congr 1
    ext key
    simp [h.mem_keysFrom, Finmap.mem_keys, and_comm]
  · let number (key : SpanKey) : Nat := 2 * key.swIfIndexTo.toNat + key.isL2.toNat
    have numbers : ((keysFrom sourceIfIndex keys).map number).Nodup := by
      apply nodup.map_on
      intro a ha b hb same
      have source := ((h.mem_keysFrom _ a).1 ha).1.trans ((h.mem_keysFrom _ b).1 hb).1.symm
      obtain ⟨_, aTo, aL2⟩ := a
      obtain ⟨_, bTo, bL2⟩ := b
      have layers := Bool.toNat_lt aL2
      have layers' := Bool.toNat_lt bL2
      simp only [number] at same
      have destination : aTo = bTo := UInt32.toNat_inj.1 (by omega)
      have layer : aL2 = bL2 := by
        cases aL2 with
        | false => cases bL2 with
          | false => rfl
          | true => simp at same; omega
        | true => cases bL2 with
          | false => simp at same; omega
          | true => rfl
      simp only at source
      rw [source, destination, layer]
    have bounded : (keysFrom sourceIfIndex keys).map number ⊆ List.range (2 ^ 33) := by
      intro n hn
      obtain ⟨key, _, rfl⟩ := List.mem_map.mp hn
      have := key.swIfIndexTo.toNat_lt
      have := Bool.toNat_lt key.isL2
      simp only [number, List.mem_range]
      omega
    have few := (numbers.subperm bounded).length_le
    rw [List.length_map, List.length_range] at few
    omega

/-- Whatever happens, only entries of the source are removed. -/
theorem removed_of_exec {sourceIfIndex : UInt32} {w w' : Vpp} {tr : List BoyEvent} {rc : Int}
    (run : Exec vppServe (boyUnsetSpan sourceIfIndex) w tr w' rc) :
    ∃ keys, (∀ key ∈ keys, key.swIfIndexFrom = sourceIfIndex) ∧ Removed keys w.span w'.span := by
  rcases exec_boyUnsetSpan run with ⟨_, same, _⟩ | ⟨requests, n, _, disables, _, written, _⟩
  · rw [same]
    exact ⟨[], by simp, fun key => rfl⟩
  · obtain ⟨k, writes⟩ := disables.upTo
    rw [written, writes]
    refine ⟨_, ?_, removed_writes _ _⟩
    intro key hkey
    have own := List.mem_of_mem_take hkey
    simp only [keysFrom, List.mem_filter, decide_eq_true_eq] at own
    exact own.2

/-- A run without any failure leaves nothing of the source. -/
theorem without_of_acknowledged {sourceIfIndex : UInt32} {w w' : Vpp} {tr : List BoyEvent}
    {rc : Int}
    (run : Exec vppServe (boyUnsetSpan sourceIfIndex) w tr w' rc) (all : ∀ e ∈ tr, Acknowledged e) :
    rc = 0 ∧ Without sourceIfIndex w.span w'.span ∧
      tr.filterMap removedReport =
        [(w.span.keys.filter (·.swIfIndexFrom = sourceIfIndex)).card] := by
  have zero : rc = 0 := run.follows.of_given all (boyUnsetSpan_succeeds sourceIfIndex)
  rcases exec_boyUnsetSpan run with
    ⟨_, _, one⟩ | ⟨requests, n, listed, disables, _, written, ending⟩
  · simp [zero] at one
  rcases ending with ⟨_, one⟩ | ⟨m, hm, _, reported⟩
  · simp [zero] at one
  obtain ⟨rfl, writes⟩ := disables.all hm
  obtain ⟨count, small⟩ := length_keysFrom listed sourceIfIndex
  refine ⟨zero, listed.without ?_, ?_⟩
  · rw [written, writes]
    exact removed_writes _ _
  · rw [reported, Nat.mod_eq_of_lt small, count]

/-- **Removing a source's SPAN entries, however far it gets.** If every request
is acknowledged, both layers of the source are gone, nothing else changed, and
the report counts the keys removed. If a disable request is refused, exactly the
entries before it in the order of the dumps are gone; a later run in which
every request is acknowledged still ends as if nothing had failed. -/
theorem unset_span (sourceIfIndex : UInt32) {w w' : Vpp} {tr : List BoyEvent} {rc : Int}
    (run : Exec vppServe (boyUnsetSpan sourceIfIndex) w tr w' rc) :
    ((∀ e ∈ tr, Acknowledged e) →
      rc = 0 ∧ Without sourceIfIndex w.span w'.span ∧
        tr.filterMap removedReport =
          [(w.span.keys.filter (·.swIfIndexFrom = sourceIfIndex)).card]) ∧
    (∀ k write answer, (spanRequests tr)[k]? = some (write, answer) → ¬ answer.Acked →
      rc ≠ 0 ∧ Listed w.span (dumpOrder tr) ∧
        (keysFrom sourceIfIndex (dumpOrder tr))[k]?.map SpanKey.removal = some write ∧
        Removed ((keysFrom sourceIfIndex (dumpOrder tr)).take k) w.span w'.span) ∧
    (∀ {w'' : Vpp} {tr' : List BoyEvent} {rc' : Int},
      Exec vppServe (boyUnsetSpan sourceIfIndex) w' tr' w'' rc' → (∀ e ∈ tr', Acknowledged e) →
      rc' = 0 ∧ Without sourceIfIndex w.span w''.span) := by
  refine ⟨without_of_acknowledged run, ?_, ?_⟩
  · intro k write answer hk bad
    rcases exec_boyUnsetSpan run with
      ⟨nothing, _, _⟩ | ⟨requests, n, listed, disables, asked, written, ending⟩
    · rw [nothing] at hk
      cases hk
    rw [asked] at hk
    obtain ⟨rfl, _, kth, writes⟩ := disables.until hk bad
    refine ⟨?_, listed, kth, ?_⟩
    · rcases ending with ⟨_, rfl⟩ | ⟨m, no, _⟩
      · decide
      · cases no
    · rw [written, writes]
      exact removed_writes _ _
  · intro w'' tr' rc' again all
    obtain ⟨keys, own, partly⟩ := removed_of_exec run
    obtain ⟨zero, rest, _⟩ := without_of_acknowledged again all
    exact ⟨zero, rest.after own partly⟩

/-- Three entries of interface 1 and one of interface 2; the second request is
refused. -/
def mirroredVpp : AnsweringVpp where
  interfaces := [sampleInterface 1 .hardware "eth0", sampleInterface 2 .hardware "eth1",
    sampleInterface 5 .hardware "memif0/0", sampleInterface 6 .hardware "memif0/1"]
  span :=
    ((((∅ : AList fun _ : SpanKey => SpanState).insert ⟨1, 5, true⟩ .tx).insert
      ⟨1, 6, false⟩ .rxTx).insert ⟨2, 5, false⟩ .rx).insert ⟨1, 5, false⟩ .rx
  refusals := [false, true]

def refusedUnset : List BoyEvent × AnsweringVpp × Int :=
  (mirroredVpp.run (boyUnsetSpan 1)).get (by decide)

def repeatedUnset : List BoyEvent × AnsweringVpp × Int :=
  (refusedUnset.2.1.run (boyUnsetSpan 1)).get (by decide)

theorem unset_refused_then_repeated :
    refusedUnset.2.2 ≠ 0 ∧
      Removed [⟨1, 5, false⟩] mirroredVpp.shown.span refusedUnset.2.1.shown.span ∧
      repeatedUnset.2.2 = 0 ∧ Without 1 mirroredVpp.shown.span repeatedUnset.2.1.shown.span := by
  have first : Exec vppServe (boyUnsetSpan 1) mirroredVpp.shown refusedUnset.1
      refusedUnset.2.1.shown refusedUnset.2.2 := AnsweringVpp.exec_run _
  have second : Exec vppServe (boyUnsetSpan 1) refusedUnset.2.1.shown repeatedUnset.1
      repeatedUnset.2.1.shown repeatedUnset.2.2 := AnsweringVpp.exec_run _
  obtain ⟨_, refused, again⟩ := unset_span 1 first
  obtain ⟨code, _, _, gone⟩ :=
    refused 1 ⟨⟨1, 6, false⟩, none⟩ AnsweringVpp.refusal (by decide) (by decide)
  have order : (keysFrom 1 (dumpOrder refusedUnset.1)).take 1 = [⟨1, 5, false⟩] := by decide
  obtain ⟨zero, without⟩ := again second (by decide)
  exact ⟨code, order ▸ gone, zero, without⟩

end BeastieBoy
