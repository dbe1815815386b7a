import BeastieBoy.SpanSet
import BeastieBoy.SpanUnset
import BeastieBoy.SpanUndisturbed

/-!
# Setting and removing at the same time

Any number of `boy_set_span` and `boy_unset_span` processes on one VPP. A process
that sets writes one key; a process that removes works off a listing that others
outdate. The table they leave is still that of some order, one process after the
other: first the settings that were overwritten, then the removals, then the
settings that lasted.
-/

namespace BeastieBoy

open CLib Interact

inductive SpanInvocation where
  | set (sourceIfIndex : UInt32) (destinationMemifName : CString) (deviceMode : BoySpanDeviceMode)
  | unset (sourceIfIndex : UInt32)

namespace SpanInvocation

def program : SpanInvocation → Boy Int
  | set sourceIfIndex destinationMemifName deviceMode =>
    boySetSpan sourceIfIndex destinationMemifName deviceMode
  | unset sourceIfIndex => boyUnsetSpan sourceIfIndex

/-- What the process is for: set one key, remove the keys of a source, or fail. -/
def operation (interfaces : List SwInterfaceDetails) : SpanInvocation → Operation SpanKey SpanState
  | set sourceIfIndex destinationMemifName deviceMode =>
    match spanTarget (interfaces.map interfaceEntry) sourceIfIndex destinationMemifName with
    | some key => .assign key (boySpanStateFromDeviceMode deviceMode)
    | none => .leave
  | unset sourceIfIndex => .clear fun key => key.swIfIndexFrom = sourceIfIndex

theorem operation_congr {l l' : List SwInterfaceDetails} (h : l.map (·.fixed) = l'.map (·.fixed))
    (invocation : SpanInvocation) : invocation.operation l = invocation.operation l' := by
  cases invocation with
  | set sourceIfIndex destinationMemifName deviceMode =>
    simp only [operation, spanTarget_congr h]
  | unset sourceIfIndex => rfl

end SpanInvocation

/-- What an undisturbed removal asks: both dumps, then every key of its source. -/
theorem follows_acknowledged_unset {sourceIfIndex : UInt32} {tr : List BoyEvent} {rc : Int}
    (h : Follows (boyUnsetSpan sourceIfIndex) tr rc) (all : ∀ e ∈ tr, Acknowledged e) :
    ∃ dev l2, ⟨.swInterfaceSpanDump false, dev⟩ ∈ tr ∧ ⟨.swInterfaceSpanDump true, l2⟩ ∈ tr ∧
      (¬ dev.Failed ∧ ¬ l2.Failed) ∧
      spanWrites tr = (keysFrom sourceIfIndex ((dev.details ++ l2.details).map (·.key))).map
        SpanKey.removal := by
  have zero : rc = 0 := h.of_given all (boyUnsetSpan_succeeds sourceIfIndex)
  rcases follows_boyUnsetSpan h with ⟨_, one⟩ | ⟨ifs, dev, l2, evs, shown, complete, unsets⟩
  · simp [zero] at one
  obtain ⟨requests, reports, n, rfl, disables, ending⟩ := unsets
  rcases ending with ⟨_, _, one⟩ | ⟨m, report, hm, rfl, _, _, quiet⟩
  · simp [zero] at one
  obtain ⟨_, written⟩ := disables.all hm
  refine ⟨dev, l2, mem_of_mem_visible (by simp [shown]), mem_of_mem_visible (by simp [shown]),
    complete.2, ?_⟩
  have reported : spanWrites [report] = [] := by
    rw [spanWrites, quiet]
    rfl
  rw [← spanWrites_visible, shown]
  have dumps : spanWrites (⟨.swInterfaceDump, ifs⟩ :: ⟨.swInterfaceSpanDump false, dev⟩ ::
      ⟨.swInterfaceSpanDump true, l2⟩ :: (requests ++ [report])) =
        spanWrites (requests ++ [report]) := rfl
  rw [dumps, spanWrites_append, reported, List.append_nil, written]

theorem follows_acknowledged_set {sourceIfIndex : UInt32} {destinationMemifName : CString}
    {deviceMode : BoySpanDeviceMode} {tr : List BoyEvent} {rc : Int}
    (h : Follows (boySetSpan sourceIfIndex destinationMemifName deviceMode) tr rc)
    (all : ∀ e ∈ tr, Acknowledged e) :
    ∃ ifs, ⟨.swInterfaceDump, ifs⟩ ∈ tr ∧ ¬ ifs.Failed ∧
      spanWrites tr = match spanTarget
        (ifs.details.map interfaceEntry) sourceIfIndex destinationMemifName with
        | some key => [⟨key, some (boySpanStateFromDeviceMode deviceMode)⟩]
        | none => [] := by
  rcases follows_boySetSpan h with ⟨_, _, failed⟩ | ⟨ifs, there, complete, ending⟩
  · exact absurd all failed
  · refine ⟨ifs, there, complete, ?_⟩
    rcases ending with ⟨target, _, written⟩ | ⟨key, target, _, written⟩
    · rw [written, target]
    · rw [written, target]

/-! ## One after the other -/

/-- An undisturbed process does what it is for. -/
theorem exec_invocation {invocation : SpanInvocation} {w w' : Vpp} {tr : List BoyEvent} {rc : Int}
    (run : Exec vppServe invocation.program w tr w' rc) (all : ∀ e ∈ tr, Acknowledged e) :
    (fun key => w'.span.lookup key) =
      (invocation.operation w.interfaces).effect.apply fun key => w.span.lookup key := by
  funext key
  cases invocation with
  | set sourceIfIndex destinationMemifName deviceMode =>
    obtain ⟨ifs, there, complete, written⟩ := follows_acknowledged_set run.follows all
    obtain ⟨t₁, t₂, rfl⟩ := List.append_of_mem there
    rw [spanTarget_congr (interfaces_of_serves _ run.serves complete)] at written
    rw [span_of_serves run.serves, written]
    simp only [SpanInvocation.operation]
    cases spanTarget (w.interfaces.map interfaceEntry) sourceIfIndex destinationMemifName with
    | none => rfl
    | some target =>
      simp only [Store.writes_cons, Store.writes_nil, Store.lookup_write, Operation.effect,
        Effect.assign, Effect.apply]
      split
      · rfl
      · rfl
  | unset sourceIfIndex =>
    rw [(without_of_acknowledged run all).2.1 key]
    simp only [SpanInvocation.operation, Operation.effect, Effect.clear, Effect.apply]
    split
    · simp_all
    · simp_all

theorem effects_of_inTurn {ι : Type} {invocations : ι → SpanInvocation} {order : List ι}
    {w w' : Vpp} (h : InTurn vppServe Acknowledged (fun i => (invocations i).program) order w w') :
    (fun key => w'.span.lookup key) =
      Effect.applyAll (order.map fun i => ((invocations i).operation w.interfaces).effect)
        fun key => w.span.lookup key := by
  induction h with
  | nil s => rfl
  | @cons i order s s' s'' tr rc first all rest ih =>
    have same : (fun i => ((invocations i).operation s'.interfaces).effect) =
        fun i => ((invocations i).operation s.interfaces).effect := by
      funext i
      rw [SpanInvocation.operation_congr (fixed_of_serves first.serves)]
    rw [ih, same, exec_invocation first all]
    rfl

/-- Few enough interfaces and SPAN entries to be counted, also after `n` more. -/
def HasRoom (n : Nat) (w : Vpp) : Prop :=
  w.interfaces.length ≤ 2 ^ 62 ∧ w.span.keys.card + n ≤ 2 ^ 61

theorem exists_turn {n : Nat} {w : Vpp} (small : HasRoom (n + 1) w) (invocation : SpanInvocation) :
    ∃ tr w' rc, Exec vppServe invocation.program w tr w' rc ∧ (∀ e ∈ tr, Acknowledged e) ∧
      HasRoom n w' := by
  obtain ⟨interfaces, entries⟩ := small
  have permitted : Permits w (fun _ _ => True) invocation.program := by
    cases invocation with
    | set sourceIfIndex destinationMemifName deviceMode => exact permits_boySetSpan interfaces _ _ _
    | unset sourceIfIndex =>
      apply permits_boyUnsetSpan interfaces
      omega
  obtain ⟨tr, w', rc, run, all, _⟩ := permitted.exists_exec
  refine ⟨tr, w', rc, run, all, ?_, ?_⟩
  · have same := congrArg List.length (fixed_of_serves run.serves)
    rw [List.length_map, List.length_map] at same
    rwa [same]
  · have added := Operation.card_keys_le (exec_invocation run all)
    omega

theorem exists_turns {ι : Type} {invocations : ι → SpanInvocation} (order : List ι) {w : Vpp}
    (small : HasRoom order.length w) :
    ∃ w', InTurn vppServe Acknowledged (fun i => (invocations i).program) order w w' :=
  exists_inTurn (fun i _ _ enough => exists_turn enough (invocations i)) order small

/-! ## The writes of a pool -/

section Pool
variable {ι : Type}

/-- Each write with the process that made it. -/
def poolWrites (tr : List (ι × BoyEvent)) : List (ι × Write SpanKey SpanState) :=
  tr.flatMap fun x => (spanWrites [x.2]).map fun w => (x.1, w)

theorem poolWrites_cons (x : ι × BoyEvent) (tr : List (ι × BoyEvent)) :
    poolWrites (x :: tr) = ((spanWrites [x.2]).map fun w => (x.1, w)) ++ poolWrites tr := rfl

theorem map_poolWrites (tr : List (ι × BoyEvent)) :
    (poolWrites tr).map Prod.snd = spanWrites (tr.map Prod.snd) := by
  induction tr with
  | nil => rfl
  | cons x tr ih =>
    have split : spanWrites ((x :: tr).map Prod.snd) =
      spanWrites [x.2] ++ spanWrites (tr.map Prod.snd) :=
      spanWrites_append [x.2] _
    rw [poolWrites_cons, List.map_append, ih, split, List.map_map]
    congr 1
    exact List.map_id _

variable [DecidableEq ι]

theorem mem_poolWrites {tr : List (ι × BoyEvent)} {i : ι} {w : Write SpanKey SpanState} :
    (i, w) ∈ poolWrites tr ↔ w ∈ spanWrites (own i tr) := by
  induction tr with
  | nil => simp [poolWrites, own]
  | cons x tr ih =>
    obtain ⟨j, e⟩ := x
    rw [poolWrites_cons, List.mem_append, ih]
    by_cases same : j = i
    · subst same
      have head : own j ((j, e) :: tr) = e :: own j tr := by simp [own]
      have split : spanWrites (e :: own j tr) = spanWrites [e] ++ spanWrites (own j tr) :=
        spanWrites_append [e] _
      rw [head, split, List.mem_append]
      simp
    · have skip : own i ((j, e) :: tr) = own i tr := by simp [own, same]
      rw [skip]
      simp [same]

/-- An event of one process, in the run of all of them. -/
theorem exists_split {tr : List (ι × BoyEvent)} {i : ι} {e : BoyEvent} (h : e ∈ own i tr) :
    ∃ t₁ t₂, tr = t₁ ++ (i, e) :: t₂ := List.append_of_mem (mem_own.1 h)

variable {invocations : ι → SpanInvocation} {w w' : Vpp} {tr : List (ι × BoyEvent)} {rcs : ι → Int}

theorem Pool.acknowledged (all : ∀ x ∈ tr, Acknowledged x.2) (i : ι) :
    ∀ e ∈ own i tr, Acknowledged e := fun e he => all (i, e) (mem_own.1 he)

/-- A process that sets writes what it is for, once. -/
theorem own_set (run : Pool vppServe (fun i => (invocations i).program) w tr
    (fun i => .done (rcs i)) w')
    (all : ∀ x ∈ tr, Acknowledged x.2) {i : ι} {sourceIfIndex : UInt32}
    {destinationMemifName : CString} {deviceMode : BoySpanDeviceMode}
    (hi : invocations i = .set sourceIfIndex destinationMemifName deviceMode) :
    (invocations i).operation w.interfaces = .leave ∧ spanWrites (own i tr) = [] ∨
      ∃ key v, (invocations i).operation w.interfaces = .assign key v ∧
        spanWrites (own i tr) = [⟨key, some v⟩] := by
  have follows : Follows (invocations i).program (own i tr) (rcs i) := run.follows rfl
  rw [hi] at follows ⊢
  obtain ⟨ifs, there, complete, written⟩ :=
    follows_acknowledged_set follows (Pool.acknowledged all i)
  obtain ⟨t₁, t₂, rfl⟩ := exists_split there
  have served := run.serves
  rw [List.map_append, List.map_cons] at served
  have listed := interfaces_of_serves _ served complete
  rw [spanTarget_congr listed] at written
  simp only [SpanInvocation.operation]
  cases target : spanTarget (w.interfaces.map interfaceEntry) sourceIfIndex
    destinationMemifName with
  | none => exact .inl ⟨rfl, by rw [written, target]⟩
  | some key => exact .inr ⟨key, _, rfl, by rw [written, target]⟩

/-- A process that removes writes nothing else, and misses no key of its source
that nobody writes: it would have listed it. -/
theorem own_unset (run : Pool vppServe (fun i => (invocations i).program) w tr
    (fun i => .done (rcs i)) w')
    (all : ∀ x ∈ tr, Acknowledged x.2) {i : ι} {sourceIfIndex : UInt32}
    (hi : invocations i = .unset sourceIfIndex) :
    (∀ x ∈ spanWrites (own i tr), x.value = none ∧ x.key.swIfIndexFrom = sourceIfIndex) ∧
      ∀ key : SpanKey, key.swIfIndexFrom = sourceIfIndex → (∀ x ∈ poolWrites tr, x.2.key ≠ key) →
        w.span.lookup key = none := by
  have follows : Follows (invocations i).program (own i tr) (rcs i) := run.follows rfl
  rw [hi] at follows
  obtain ⟨dev, l2, askedDev, askedL2, complete, written⟩ :=
    follows_acknowledged_unset follows (Pool.acknowledged all i)
  constructor
  · intro x hx
    rw [written] at hx
    obtain ⟨key, hkey, rfl⟩ := List.mem_map.mp hx
    simp only [keysFrom, List.mem_filter, decide_eq_true_eq] at hkey
    exact ⟨rfl, hkey.2⟩
  · intro key source quiet
    by_contra there
    obtain ⟨state, hstate⟩ := Option.ne_none_iff_exists'.1 there
    have dumped : ∀ {dump : VapiDump SwInterfaceSpanDetails},
        ⟨.swInterfaceSpanDump key.isL2, dump⟩ ∈ own i tr → ¬ dump.Failed →
        key ∈ dump.details.map (·.key) := by
      intro dump asked complete
      obtain ⟨t₁, t₂, rfl⟩ := exists_split asked
      have served := run.serves
      rw [List.map_append, List.map_cons] at served
      have lists := lists_of_serves _ served complete
      have still : (w.span.writes (spanWrites (t₁.map Prod.snd))).lookup key = some state := by
        rw [Store.lookup_writes_untouched, hstate]
        intro x hx
        rw [← map_poolWrites] at hx
        obtain ⟨y, hy, rfl⟩ := List.mem_map.mp hx
        apply quiet y
        simp only [poolWrites, List.flatMap_append, List.mem_append]
        exact .inl hy
      exact List.mem_map.mpr ⟨⟨key.swIfIndexFrom, key.swIfIndexTo, state, key.isL2⟩,
        (lists.mem_iff _).2 ⟨rfl, still⟩, rfl⟩
    have listed : key ∈ keysFrom sourceIfIndex ((dev.details ++ l2.details).map (·.key)) := by
      simp only [keysFrom, List.map_append, List.mem_filter, List.mem_append, decide_eq_true_eq]
      refine ⟨?_, source⟩
      cases layer : key.isL2 with
      | false => exact .inl (dumped (layer ▸ askedDev) complete.1)
      | true => exact .inr (dumped (layer ▸ askedL2) complete.2)
    have removed : (i, key.removal) ∈ poolWrites tr := by
      rw [mem_poolWrites, written]
      exact List.mem_map_of_mem listed
    exact quiet _ removed rfl

/-- The writes of a pool are those of its operations. -/
theorem interleaved_of_pool
    (run : Pool vppServe (fun i => (invocations i).program) w tr (fun i => .done (rcs i)) w')
    (all : ∀ x ∈ tr, Acknowledged x.2) :
    Interleaved (fun i => (invocations i).operation w.interfaces) w.span (poolWrites tr) where
  own := by
    rintro ⟨i, x⟩ hx
    rw [mem_poolWrites] at hx
    cases hi : invocations i with
    | set sourceIfIndex destinationMemifName deviceMode =>
      rcases own_set run all hi with ⟨_, nothing⟩ | ⟨key, v, hop, written⟩
      · rw [nothing] at hx
        cases hx
      · rw [written, List.mem_singleton] at hx
        rw [← hi, hop]
        exact hx
    | unset sourceIfIndex =>
      obtain ⟨gone, source⟩ := (own_unset run all hi).1 x hx
      exact ⟨gone, decide_eq_true source⟩
  assigned i key v hop := by
    cases hi : invocations i with
    | set sourceIfIndex destinationMemifName deviceMode =>
      rcases own_set run all hi with ⟨leave, _⟩ | ⟨key, v, _, written⟩
      · rw [hop] at leave
        cases leave
      · exact ⟨(i, ⟨key, some v⟩), mem_poolWrites.2 (by simp [written]), rfl⟩
    | unset sourceIfIndex =>
      rw [hi] at hop
      cases hop
  cleared i p hop key hp quiet := by
    cases hi : invocations i with
    | set sourceIfIndex destinationMemifName deviceMode =>
      rcases own_set run all hi with ⟨leave, _⟩ | ⟨_, _, assign, _⟩
      · rw [hop] at leave
        cases leave
      · rw [hop] at assign
        cases assign
    | unset sourceIfIndex =>
      rw [hi] at hop
      cases hop
      exact (own_unset run all hi).2 key (of_decide_eq_true hp) quiet

/-- **Concurrent settings and removals leave what they leave one after the
other.** For every interleaving of the requests of any number of processes, all
of them acknowledged, there is an order of the processes such that every run of
the same processes in that order, all of its requests acknowledged too, ends
with the same SPAN table; and as long as the tables can be counted, there is
such a run. -/
theorem span_serializable [Finite ι]
    (run : Pool vppServe (fun i => (invocations i).program) w tr (fun i => .done (rcs i)) w')
    (all : ∀ x ∈ tr, Acknowledged x.2) :
    ∃ order : List ι, order.Nodup ∧ (∀ i, i ∈ order) ∧
      (∀ {w'' : Vpp}, InTurn vppServe Acknowledged (fun i => (invocations i).program) order w w'' →
        w''.span = w'.span) ∧
      (HasRoom order.length w →
        ∃ w'', InTurn vppServe Acknowledged (fun i => (invocations i).program) order w w'') := by
  obtain ⟨order, nodup, complete, serial⟩ := exists_serial_order (interleaved_of_pool run all)
  refine ⟨order, nodup, complete, ?_, exists_turns order⟩
  intro w'' turns
  apply Finmap.ext_lookup
  intro key
  have one := congrFun (effects_of_inTurn turns) key
  have other := congrFun serial key
  rw [map_poolWrites, ← span_of_serves run.serves] at other
  exact one.trans other

end Pool

/-! A removal that lists its source before two settings, and removes what one of
them wrote. -/

def racedVpp : AnsweringVpp where
  interfaces := [sampleInterface 1 .hardware "eth0", sampleInterface 5 .hardware "memif0/0",
    sampleInterface 6 .hardware "memif0/1"]
  span :=
    ((∅ : AList fun _ : SpanKey => SpanState).insert ⟨1, 5, true⟩ .tx).insert ⟨1, 5, false⟩ .rx
  refusals := []

def racers : Fin 3 → SpanInvocation
  | 0 => .set 1 "memif0/1".toList .tx
  | 1 => .unset 1
  | 2 => .set 1 "memif0/0".toList .both

def raceSchedule : List (Fin 3) :=
  .replicate 11 1 ++ .replicate 12 2 ++ .replicate 12 0 ++ .replicate 9 1

def race : List (Fin 3 × BoyEvent) × (Fin 3 → Boy Int) × AnsweringVpp :=
  (playPool AnsweringVpp.answer raceSchedule (fun i => (racers i).program) racedVpp).get (by decide)

theorem race_serialized :
    race.2.2.shown.span.keys = {⟨1, 6, false⟩} ∧
      ∃ order : List (Fin 3), order.Nodup ∧ (∀ i, i ∈ order) ∧
      ∃ w, InTurn vppServe Acknowledged (fun i => (racers i).program) order racedVpp.shown w ∧
        w.span = race.2.2.shown.span := by
  have finished : race.2.1 = fun _ => .done 0 := by
    funext i
    match i with
    | 0 => rfl
    | 1 => rfl
    | 2 => rfl
  have run : Pool vppServe (fun i => (racers i).program) racedVpp.shown race.1 (fun _ => .done 0)
      race.2.2.shown := by
    have played : playPool AnsweringVpp.answer raceSchedule (fun i => (racers i).program) racedVpp =
        some race := (Option.some_get _).symm
    rw [← finished]
    exact pool_playPool AnsweringVpp.serves_answer played
  obtain ⟨order, nodup, complete, same, exist⟩ := span_serializable run (by decide)
  have three : order.length ≤ 3 := nodup.length_le_card
  have room : HasRoom order.length racedVpp.shown := by
    have entries : racedVpp.shown.span.keys.card = 2 := by decide
    exact ⟨by decide, by omega⟩
  obtain ⟨w, turns⟩ := exist room
  exact ⟨by decide, order, nodup, complete, w, turns, same turns⟩

end BeastieBoy
