import BeastieBoy.SpanMirror
import BeastieBoy.SpanOrder
import BeastieBoy.SpanRace
import BeastieBoy.VapiSession

/-!
# `boy` used again and again

Command lines of `boy` run one after the other against one VPP, each with
whatever replies it gets. What the SPAN table holds in the end can be told from
the command lines, their exit codes and the interfaces alone.
-/

namespace BeastieBoy

open CLib Interact Interact.Prog

/-- A VPP that can create a memif. The new interface has the index of the reply,
which no other has. -/
def growingServe : Server BoyCall BoyReply Vpp :=
  fun w c r w' =>
    match c, r with
    | .memifCreate _, answer =>
      match answer with
      | .replied .ok (some reply) =>
        if reply.retval = 0 then
          ∃ d, d.swIfIndex = reply.swIfIndex ∧ (∀ d' ∈ w.interfaces, d'.swIfIndex ≠ d.swIfIndex) ∧
            w' = { w with interfaces := w.interfaces ++ [d] }
        else w' = w
      | _ => w' = w
    | c, r => vppServe w c r w'

/-- Each command line with what it returned. -/
inductive BoySession (posixlyCorrect : Bool) : Vpp → List (List CString × Int) → Vpp → Prop
  | nil (w : Vpp) : BoySession posixlyCorrect w [] w
  | cons {w w' w'' : Vpp} {argv : List CString} {tr : List BoyEvent} {rc : Int}
      {later : List (List CString × Int)}
      (first : Exec growingServe (boyMain posixlyCorrect argv) w tr w' rc)
      (rest : BoySession posixlyCorrect w' later w'') :
        BoySession posixlyCorrect w ((argv, rc) :: later) w''

/-- The change to the SPAN table that a command line asks for. -/
def BoyCliOptions.invocation (options : BoyCliOptions) : Option SpanInvocation :=
  match options.mode with
  | .setSpan =>
    options.setSpanMemifName.map (.set options.setSpanIfIndex · options.setSpanDeviceMode)
  | .unsetSpan => some (.unset options.unsetSpanIfIndex)
  | _ => none

def lineInvocation (posixlyCorrect : Bool) (argv : List CString) : Option SpanInvocation :=
  match boyParseCliOptions posixlyCorrect argv with
  | .ok options => options.invocation
  | .error _ => none

/-- What a command line that succeeded leaves in each key it decides. -/
def spanEffect (posixlyCorrect : Bool) (interfaces : List SwInterfaceDetails)
    (line : List CString × Int) :
    Effect SpanKey SpanState :=
  match lineInvocation posixlyCorrect line.1 with
  | some invocation => if line.2 = 0 then (invocation.operation interfaces).effect else .none
  | none => .none

/-! ## The interfaces grow -/

def SwInterfaceDetails.IsUp (d : SwInterfaceDetails) : Prop :=
  d.flags &&& ifStatusApiFlagAdminUp ≠ 0

instance (d : SwInterfaceDetails) : Decidable d.IsUp := inferInstanceAs (Decidable (_ ≠ _))

theorem or_and_eq_zero_iff (a b mask : UInt32) :
    (a ||| b) &&& mask = 0 ↔ a &&& mask = 0 ∧ b &&& mask = 0 := by
  have both : (a ||| b) &&& mask = a &&& mask ||| b &&& mask :=
    UInt32.toBitVec_inj.1 (BitVec.and_or_distrib_right)
  rw [both, UInt32.or_eq_zero_iff]

theorem isUp_orFlags {d : SwInterfaceDetails} (h : d.IsUp) (swIfIndex flags : UInt32) :
    (d.orFlags swIfIndex flags).IsUp := by
  unfold SwInterfaceDetails.orFlags
  split
  · exact fun down => h ((or_and_eq_zero_iff _ _ _).1 down).1
  · exact h

theorem isUp_broughtUp (d : SwInterfaceDetails) :
    (d.orFlags d.swIfIndex ifStatusApiFlagAdminUp).IsUp := by
  rw [SwInterfaceDetails.orFlags, if_pos rfl]
  intro down
  exact absurd ((or_and_eq_zero_iff _ _ _).1 down).2 (by decide)

/-- The same interfaces with more flags, and perhaps others behind them. -/
structure ListGrown (l l' : List SwInterfaceDetails) : Prop where
  fixed : l.map (·.fixed) <+: l'.map (·.fixed)
  up : ∀ d ∈ l, ∃ d' ∈ l', d'.fixed = d.fixed ∧ (d.IsUp → d'.IsUp)

theorem ListGrown.refl (l : List SwInterfaceDetails) : ListGrown l l :=
  ⟨List.prefix_refl _, fun d there => ⟨d, there, rfl, id⟩⟩

theorem ListGrown.trans {l l' l'' : List SwInterfaceDetails} (h : ListGrown l l')
    (h' : ListGrown l' l'') :
    ListGrown l l'' := by
  refine ⟨h.fixed.trans h'.fixed, fun d there => ?_⟩
  obtain ⟨d', there', same, up⟩ := h.up d there
  obtain ⟨d'', there'', same', up'⟩ := h'.up d' there'
  exact ⟨d'', there'', same'.trans same, fun was => up' (up was)⟩

theorem grown_orFlags (l : List SwInterfaceDetails) (swIfIndex flags : UInt32) :
    ListGrown l (l.map (.orFlags swIfIndex flags)) := by
  constructor
  · simp [Function.comp_def, fixed_orFlags]
  · intro d there
    exact ⟨_, List.mem_map_of_mem there, fixed_orFlags _ _ d, fun up => isUp_orFlags up _ _⟩

theorem grown_append (l m : List SwInterfaceDetails) : ListGrown l (l ++ m) :=
  ⟨by simp, fun d there => ⟨d, List.mem_append_left _ there, rfl, id⟩⟩

/-- A `memif_create` adds one interface, or changes nothing. -/
theorem growing_memifCreate {w w' : Vpp} {payload : MemifCreate} {r : VapiReturn MemifCreateReply}
    (h : growingServe w (.memifCreate payload) r w') :
    w' = w ∨ ∃ d, w' = { w with interfaces := w.interfaces ++ [d] } := by
  simp only [growingServe] at h
  split at h
  · split at h
    · obtain ⟨d, _, _, added⟩ := h
      exact .inr ⟨d, added⟩
    · exact .inl h
  · exact .inl h

theorem vppServe_of_growing {w w' : Vpp} {e : BoyEvent} (h : growingServe w e.call e.reply w')
    (other : ∀ payload, e.call ≠ .memifCreate payload) : vppServe w e.call e.reply w' := by
  obtain ⟨c, r⟩ := e
  cases c with
  | memifCreate payload => exact absurd rfl (other payload)
  | _ => exact h

theorem serves_of_growing {w w' : Vpp} {tr : List BoyEvent} (h : Serves growingServe w tr w')
    (other : ∀ e ∈ tr, ∀ payload, e.call ≠ .memifCreate payload) : Serves vppServe w tr w' := by
  induction h with
  | nil s => exact .nil s
  | cons step _ ih =>
    obtain ⟨first, rest⟩ := List.forall_mem_cons.1 other
    exact .cons (vppServe_of_growing step first) (ih rest)

/-- Only SPAN requests change the SPAN table. -/
theorem span_of_growing {w w' : Vpp} {e : BoyEvent} (h : growingServe w e.call e.reply w')
    (other : ∀ swIfIndexFrom swIfIndexTo state isL2,
      e.call ≠ .swInterfaceSpanEnableDisable swIfIndexFrom swIfIndexTo state isL2) :
    w'.span = w.span := by
  obtain ⟨c, r⟩ := e
  cases c with
  | memifCreate payload =>
    rcases growing_memifCreate h with rfl | ⟨d, rfl⟩
    · rfl
    · rfl
  | swInterfaceSpanEnableDisable swIfIndexFrom swIfIndexTo state isL2 =>
    exact absurd rfl (other _ _ _ _)
  | swInterfaceSetFlags swIfIndex flags =>
    simp only [growingServe, vppServe] at h
    rw [h]
    split
    · rfl
    · rfl
  | swInterfaceDump => rw [h.2]
  | swInterfaceSpanDump isL2 => rw [h.2]
  | _ =>
    have same : w' = w := h
    rw [same]

theorem grown_of_growing {w w' : Vpp} {e : BoyEvent} (h : growingServe w e.call e.reply w') :
    ListGrown w.interfaces w'.interfaces := by
  obtain ⟨c, r⟩ := e
  cases c with
  | memifCreate payload =>
    rcases growing_memifCreate h with rfl | ⟨d, rfl⟩
    · exact .refl _
    · exact grown_append _ _
  | swInterfaceSetFlags swIfIndex flags =>
    simp only [growingServe, vppServe] at h
    rw [h]
    split
    · exact grown_orFlags _ _ _
    · exact .refl _
  | swInterfaceSpanEnableDisable swIfIndexFrom swIfIndexTo state isL2 =>
    simp only [growingServe, vppServe] at h
    rw [h]
    split
    · exact .refl _
    · exact .refl _
  | swInterfaceDump => exact h.2 ▸ .refl _
  | swInterfaceSpanDump isL2 => exact h.2 ▸ .refl _
  | _ =>
    have same : w' = w := h
    exact same ▸ .refl _

theorem grown_of_serves {w w' : Vpp} {tr : List BoyEvent} (h : Serves growingServe w tr w') :
    ListGrown w.interfaces w'.interfaces := by
  induction h with
  | nil s => exact .refl _
  | cons step _ ih => exact (grown_of_growing step).trans ih

/-- What was found is found among more interfaces too. -/
theorem spanTarget_append {entries : List BoyInterfaceEntry} {sourceIfIndex : UInt32}
    {name : CString} {key : SpanKey}
    (found : spanTarget entries sourceIfIndex name = some key) (more : List BoyInterfaceEntry) :
    spanTarget (entries ++ more) sourceIfIndex name = some key := by
  unfold spanTarget boyFindInterfaceEntryByIndex boyFindInterfaceEntryByName at found ⊢
  rw [List.find?_append, List.find?_append]
  cases source : entries.find? (·.swIfIndex = sourceIfIndex) with
  | none => simp [source] at found
  | some sourceEntry =>
    cases destination : entries.find? (·.interfaceName = name) with
    | none => simp [source, destination] at found
    | some destinationEntry =>
      rw [source, destination] at found
      exact found

theorem spanTarget_grown {l l' : List SwInterfaceDetails} (h : ListGrown l l')
    {sourceIfIndex : UInt32} {name : CString}
    {key : SpanKey} (found : spanTarget (l.map interfaceEntry) sourceIfIndex name = some key) :
    spanTarget (l'.map interfaceEntry) sourceIfIndex name = some key := by
  obtain ⟨more, eq⟩ := h.fixed
  rw [← spanTarget_fixed l']
  rw [← spanTarget_fixed l] at found
  rw [← eq, List.map_append]
  exact spanTarget_append found _

/-! ## One command line -/

section Line
variable {posixlyCorrect : Bool} {argv : List CString} {w w' : Vpp} {tr : List BoyEvent} {rc : Int}

theorem boyMain_eq {options : BoyCliOptions}
    (parsed : boyParseCliOptions posixlyCorrect argv = .ok options) :
    boyMain posixlyCorrect argv = boyRun options := by
  rw [boyMain, parsed]

/-- A run that ends has followed no `NULL` for the name. -/
theorem invocation_of_follows {options : BoyCliOptions} (run : Follows (boyRun options) tr rc) :
    options.mode = .setSpan ∧ (∃ name, options.setSpanMemifName = some name ∧
        options.invocation = some (.set options.setSpanIfIndex name options.setSpanDeviceMode) ∧
        boyRun options = boySetSpan options.setSpanIfIndex name options.setSpanDeviceMode) ∨
      options.mode = .unsetSpan ∧ options.invocation = some (.unset options.unsetSpanIfIndex) ∧
        boyRun options = boyUnsetSpan options.unsetSpanIfIndex ∨
      options.mode ≠ .setSpan ∧ options.mode ≠ .unsetSpan ∧ options.invocation = none := by
  unfold boyRun at run ⊢
  unfold BoyCliOptions.invocation
  cases mode : options.mode with
  | setSpan =>
    cases given : options.setSpanMemifName with
    | none =>
      simp only [mode, given] at run
      obtain ⟨r, _⟩ := follows_call_iff.1 run
      exact r.elim
    | some name => exact .inl ⟨rfl, name, rfl, rfl, rfl⟩
  | unsetSpan => exact .inr (.inl ⟨rfl, rfl, rfl⟩)
  | _ => exact .inr (.inr ⟨nofun, nofun, rfl⟩)

/-- Who sets or removes SPAN entries creates no interface. -/
theorem serves_vppServe {options : BoyCliOptions}
    (parsed : boyParseCliOptions posixlyCorrect argv = .ok options)
    (run : Exec growingServe (boyMain posixlyCorrect argv) w tr w' rc)
    (other : options.mode ≠ .createMemif) :
    Serves vppServe w tr w' := by
  apply serves_of_growing run.serves
  intro e there payload same
  have may := may_of_begins run.follows.begins e there (by rw [same]; rfl)
  rw [same, commandLineMay, parsed] at may
  simp only [boyMay] at may
  cases mode : options.mode with
  | createMemif => exact other mode
  | _ => simp [mode] at may

theorem span_of_other {options : BoyCliOptions}
    (parsed : boyParseCliOptions posixlyCorrect argv = .ok options)
    (run : Exec growingServe (boyMain posixlyCorrect argv) w tr w' rc)
    (no_set : options.mode ≠ .setSpan) (no_unset : options.mode ≠ .unsetSpan) :
    w'.span = w.span := by
  apply run.serves.frame
  intro s e s' there step
  apply span_of_growing step
  intro swIfIndexFrom swIfIndexTo state isL2 same
  have may := may_of_begins run.follows.begins e there (by rw [same]; rfl)
  rw [same, commandLineMay, parsed] at may
  simp only [boyMay] at may
  cases mode : options.mode with
  | setSpan => exact no_set mode
  | unsetSpan => exact no_unset mode
  | _ => simp [mode] at may

/-- What `boy_set_span` leaves, whatever its replies. -/
theorem set_of_exec {sourceIfIndex : UInt32} {name : CString} {deviceMode : BoySpanDeviceMode}
    (run : Exec vppServe (boySetSpan sourceIfIndex name deviceMode) w tr w' rc) :
    rc = 1 ∧ w'.span = w.span ∨
      rc = 0 ∧ ∃ key, spanTarget (w.interfaces.map interfaceEntry) sourceIfIndex name = some key ∧
        w'.span = w.span.write ⟨key, some (boySpanStateFromDeviceMode deviceMode)⟩ := by
  have written := span_of_serves run.serves
  rcases follows_boySetSpan run.follows with ⟨one, nothing, _⟩ | ⟨ifs, there, complete, ending⟩
  · rw [nothing] at written
    exact .inl ⟨one, written⟩
  · obtain ⟨t₁, t₂, rfl⟩ := List.append_of_mem there
    rw [spanTarget_congr (interfaces_of_serves _ run.serves complete)] at ending
    rcases ending with ⟨_, one, nothing⟩ | ⟨key, target, zero, one⟩
    · rw [nothing] at written
      exact .inl ⟨one, written⟩
    · rw [one] at written
      exact .inr ⟨zero, key, target, written⟩

/-- What `boy_unset_span` leaves, whatever its replies. -/
theorem unset_of_exec {sourceIfIndex : UInt32}
    (run : Exec vppServe (boyUnsetSpan sourceIfIndex) w tr w' rc) :
    rc = 0 ∧ Without sourceIfIndex w.span w'.span ∨
      rc = 1 ∧ ∃ keys, (∀ key ∈ keys, key.swIfIndexFrom = sourceIfIndex) ∧
        Removed keys w.span w'.span := by
  rcases exec_boyUnsetSpan run with ⟨_, _, one⟩ | ⟨requests, n, listed, disables, _,
    written, ending⟩
  · exact .inr ⟨one, removed_of_exec run⟩
  · rcases ending with ⟨_, one⟩ | ⟨m, hm, zero, _⟩
    · exact .inr ⟨one, removed_of_exec run⟩
    · obtain ⟨_, writes⟩ := disables.all hm
      refine .inl ⟨zero, listed.without ?_⟩
      rw [written, writes]
      exact removed_writes _ _

/-- One key behind one command line: what the command line asks for, if it
succeeded; a removal that failed may have gone that far or not. -/
theorem lookup_of_line (run : Exec growingServe (boyMain posixlyCorrect argv) w tr w' rc)
    {interfaces : List SwInterfaceDetails} (grown : ListGrown w.interfaces interfaces)
    (key : SpanKey) :
    w'.span.lookup key = (spanEffect posixlyCorrect interfaces (argv, rc)).apply
      (fun k => w.span.lookup k) key ∨
      w'.span.lookup key = none ∧ rc = 1 ∧
    lineInvocation posixlyCorrect argv = some (.unset key.swIfIndexFrom) := by
  cases parsed : boyParseCliOptions posixlyCorrect argv with
  | error exit =>
    have nothing : tr = [] := by
      have follows := run.follows
      rw [boyMain, parsed] at follows
      cases exit with
      | help => exact (follows_done_iff.1 follows).1
      | usage => exact (follows_done_iff.1 follows).1
      | failure message => exact (follows_done_iff.1 follows).1
    have same : w' = w := serves_nil_iff.1 (nothing ▸ run.serves)
    refine .inl ?_
    rw [same, spanEffect, lineInvocation, parsed]
    rfl
  | ok options =>
    have line : lineInvocation posixlyCorrect argv = options.invocation := by
      rw [lineInvocation, parsed]
    rw [spanEffect, line]
    have follows := run.follows
    rw [boyMain_eq parsed] at follows
    rcases invocation_of_follows follows with
      ⟨mode, name, _, asked, program⟩ | ⟨mode, asked, program⟩ | ⟨no_set, no_unset, asked⟩
    · have served := serves_vppServe parsed run (by simp [mode])
      rw [program] at follows
      rcases set_of_exec ⟨follows, served⟩ with ⟨rfl, same⟩ | ⟨rfl, target, found, written⟩
      · rw [same, asked]
        exact .inl rfl
      · refine .inl ?_
        rw [written, asked, Store.lookup_write]
        simp only [↓reduceIte, SpanInvocation.operation, spanTarget_grown grown found,
          Operation.effect, Effect.assign, Effect.apply]
        split
        · rfl
        · rfl
    · have served := serves_vppServe parsed run (by simp [mode])
      rw [program] at follows
      rcases unset_of_exec ⟨follows, served⟩ with ⟨rfl, gone⟩ | ⟨rfl, keys, own, removed⟩
      · refine .inl ?_
        rw [asked, gone key]
        simp only [↓reduceIte, SpanInvocation.operation, Operation.effect, Effect.clear,
          Effect.apply,
          decide_eq_true_eq]
        split
        · rfl
        · rfl
      · rw [removed key, asked]
        by_cases there : key ∈ keys
        · rw [if_pos there, own key there]
          exact .inr ⟨rfl, rfl, rfl⟩
        · rw [if_neg there]
          exact .inl rfl
    · rw [span_of_other parsed run no_set no_unset, asked]
      exact .inl rfl

end Line

/-! ## All of them -/

theorem BoySession.grown {posixlyCorrect : Bool} {w w' : Vpp} {log : List (List CString × Int)}
    (session : BoySession posixlyCorrect w log w') : ListGrown w.interfaces w'.interfaces := by
  induction session with
  | nil w => exact .refl _
  | cons first _ ih => exact (grown_of_serves first.serves).trans ih

/-- **The SPAN table after any use of `boy`.** Each key holds what the command
lines that returned 0 leave in it, one after the other, with the interfaces VPP
has in the end; or nothing, if a removal of its source failed. Nothing else that
`boy` is told to do changes the table. -/
theorem span_sessions {posixlyCorrect : Bool} {w w' : Vpp} {log : List (List CString × Int)}
    (session : BoySession posixlyCorrect w log w') (key : SpanKey) :
    w'.span.lookup key =
        Effect.applyAll (log.map (spanEffect posixlyCorrect w'.interfaces))
          (fun k => w.span.lookup k) key ∨
      w'.span.lookup key = none ∧ ∃ argv, (argv, 1) ∈ log ∧
        lineInvocation posixlyCorrect argv = some (.unset key.swIfIndexFrom) := by
  induction session with
  | nil w => exact .inl rfl
  | @cons w w₁ w' argv tr rc later first rest ih =>
    have grown := (grown_of_serves first.serves).trans rest.grown
    rcases ih with same | ⟨gone, argv', there, asked⟩
    · have unfolded (f : SpanKey → Option SpanState) :
          Effect.applyAll (((argv, rc) :: later).map (spanEffect posixlyCorrect w'.interfaces)) f =
            Effect.applyAll (later.map (spanEffect posixlyCorrect w'.interfaces))
              ((spanEffect posixlyCorrect w'.interfaces (argv, rc)).apply f) := rfl
      rw [unfolded, same]
      -- The later command lines decide the key, or leave what the first one left.
      rcases Effect.applyAll_decides (later.map (spanEffect posixlyCorrect w'.interfaces)) key with
        ⟨r, decided⟩ | untouched
      · exact .inl ((decided _).trans (decided _).symm)
      · rw [untouched, untouched]
        rcases lookup_of_line first grown key with left_so | ⟨gone, rfl, asked⟩
        · exact .inl left_so
        · exact .inr ⟨gone, argv, List.mem_cons_self, asked⟩
    · exact .inr ⟨gone, argv', List.mem_cons_of_mem _ there, asked⟩

theorem growing_of_vppServe {w w' : Vpp} {c : BoyCall} {r : BoyReply c} (h : vppServe w c r w') :
    growingServe w c r w' := by
  cases c with
  | memifCreate payload =>
    obtain ⟨refused, same⟩ := h
    simp only [growingServe]
    split
    · rename_i reply
      have nonzero : ¬ reply.retval = 0 := refused
      rw [if_neg nonzero]
      exact same
    · exact same
  | _ => exact h

theorem serves_growing {w w' : Vpp} {tr : List BoyEvent} (h : Serves vppServe w tr w') :
    Serves growingServe w tr w' := by
  induction h with
  | nil s => exact .nil s
  | cons step _ ih => exact .cons (growing_of_vppServe step) ih

theorem exec_growing {α : Type} {p : Boy α} {w w' : Vpp} {tr : List BoyEvent} {a : α}
    (run : Exec vppServe p w tr w' a) : Exec growingServe p w tr w' a :=
  ⟨run.follows, serves_growing run.serves⟩

def setLine : List CString :=
  ["boy".toList, "-S".toList, "-I1".toList, "--memif=memif0/0".toList, "-D".toList, "both".toList]

def unsetLine : List CString := ["boy".toList, "--unset".toList, "1".toList]

/-- A source that is down, and another with a mirror of the device and one of L2. -/
def mirroringVpp : AnsweringVpp where
  interfaces := [{ sampleInterface 1 .hardware "eth0" with flags := 0 },
    sampleInterface 2 .hardware "eth1", sampleInterface 5 .hardware "memif0/0"]
  span :=
    ((∅ : AList fun _ : SpanKey => SpanState).insert ⟨2, 5, false⟩ .rx).insert ⟨2, 9, true⟩ .rxTx
  refusals := []

def setByLine : List BoyEvent × AnsweringVpp × Int :=
  (mirroringVpp.run (boyMain false setLine)).get (by decide)

def unsetByLine : List BoyEvent × AnsweringVpp × Int :=
  (setByLine.2.1.run (boyMain false unsetLine)).get (by decide)

theorem exec_setLine :
    Exec growingServe (boyMain false setLine) mirroringVpp.shown setByLine.1
      setByLine.2.1.shown 0 := exec_growing (AnsweringVpp.exec_run_eq _ rfl)

theorem exec_unsetLine :
    Exec growingServe (boyMain false unsetLine) setByLine.2.1.shown unsetByLine.1
      unsetByLine.2.1.shown 0 := exec_growing (AnsweringVpp.exec_run_eq _ rfl)

/-- The mirrors of the other source are kept. -/
theorem set_and_unset_session :
    setByLine.2.1.shown.span.lookup ⟨1, 5, false⟩ = some .rxTx ∧
    BoySession false mirroringVpp.shown [(setLine, 0), (unsetLine, 0)] unsetByLine.2.1.shown ∧
    unsetByLine.2.1.shown.span.lookup ⟨1, 5, false⟩ = none ∧
    unsetByLine.2.1.shown.span.lookup ⟨2, 5, false⟩ = some .rx ∧
    unsetByLine.2.1.shown.span.lookup ⟨2, 9, true⟩ = some .rxTx := by
  have session : BoySession false mirroringVpp.shown [(setLine, 0), (unsetLine, 0)]
      unsetByLine.2.1.shown := .cons exec_setLine (.cons exec_unsetLine (.nil _))
  have told (key : SpanKey) : unsetByLine.2.1.shown.span.lookup key =
      Effect.applyAll ([(setLine, 0), (unsetLine, 0)].map
        (spanEffect false unsetByLine.2.1.shown.interfaces))
        (fun k => mirroringVpp.shown.span.lookup k) key := by
    rcases span_sessions session key with same | ⟨_, argv, there, _⟩
    · exact same
    · simp at there
  exact ⟨rfl, session, (told _).trans rfl, (told _).trans rfl, (told _).trans rfl⟩

/-! ## Every mirror is a sound one -/

/-- A mirror as `boy_set_span` makes them: from an interface to another, which is
a memif, both up, in one of the three modes. -/
structure SoundMirror (interfaces : List SwInterfaceDetails) (key : SpanKey)
    (state : SpanState) : Prop where
  layer : key.isL2 = false
  apart : key.swIfIndexFrom ≠ key.swIfIndexTo
  mode : ∃ deviceMode, state = boySpanStateFromDeviceMode deviceMode
  source : ∃ d ∈ interfaces, d.swIfIndex = key.swIfIndexFrom ∧ d.IsUp
  destination : ∃ d ∈ interfaces, d.swIfIndex = key.swIfIndexTo ∧ namesMemif d.name = true ∧ d.IsUp

/-- L2 entries are none of `boy`'s. -/
def SoundMirrors (w : Vpp) : Prop :=
  ∀ key state, key.isL2 = false → w.span.lookup key = some state →
    SoundMirror w.interfaces key state

/-- Nothing but flags is lost behind `fixed`. -/
theorem same_of_fixed {d d' : SwInterfaceDetails} (h : d'.fixed = d.fixed) :
    d'.swIfIndex = d.swIfIndex ∧ d'.name = d.name :=
  ⟨congrArg (·.swIfIndex) h, congrArg (·.name) h⟩

theorem SoundMirror.grown {l l' : List SwInterfaceDetails} {key : SpanKey} {state : SpanState}
    (h : SoundMirror l key state) (grown : ListGrown l l') : SoundMirror l' key state := by
  refine ⟨h.layer, h.apart, h.mode, ?_, ?_⟩
  · obtain ⟨d, there, index, up⟩ := h.source
    obtain ⟨d', there', same, stays⟩ := grown.up d there
    exact ⟨d', there', (same_of_fixed same).1.trans index, stays up⟩
  · obtain ⟨d, there, index, memif, up⟩ := h.destination
    obtain ⟨d', there', same, stays⟩ := grown.up d there
    obtain ⟨index', name⟩ := same_of_fixed same
    exact ⟨d', there', index'.trans index, by rw [name, memif], stays up⟩

/-- A run that succeeds has found both interfaces in its dump, and each was up
there or was brought up. -/
theorem follows_configured {sourceIfIndex : UInt32} {name : CString}
    {deviceMode : BoySpanDeviceMode}
    {tr : List BoyEvent} (h : Follows (boySetSpan sourceIfIndex name deviceMode) tr 0) :
    ∃ dump source destination t, visible tr = ⟨.swInterfaceDump, dump⟩ :: visible t ∧
      ¬ dump.Failed ∧
      boyFindInterfaceEntryByIndex (dump.details.map interfaceEntry) sourceIfIndex = some source ∧
      boyFindInterfaceEntryByName (dump.details.map interfaceEntry) name = some destination ∧
      source.swIfIndex ≠ destination.swIfIndex ∧ namesMemif destination.interfaceName = true ∧
      ∀ c ∈ adminUpPlan source ++ adminUpPlan destination, ∃ e ∈ visible t, e.call = c ∧
        Acknowledged e := by
  rcases follows_withVapi h with ⟨_, no, _⟩ | ⟨t, finished, seen, _, body, code⟩
  · cases no
  have succeeded : finished = some () := by
    cases finished with
    | none => cases code
    | some _ => rfl
  rw [succeeded] at body
  rcases follows_attempt_iff.1 body with ⟨_, no⟩ | ⟨t₁, interfaces, t₂, rfl, got, checked⟩
  · cases no
  obtain ⟨dump, asked, complete, listed⟩ := (follows_gotInterfaces got).2 interfaces rfl
  have entries : interfaces.entries = dump.details.map interfaceEntry := by
    simpa [BoyTable.empty] using listed
  rw [entries] at checked
  have refused {format : String} {args : List BoyLogArg} :
      ¬ Follows (logThenCleanup (α := Unit) format args).run t₂ (some ()) := by
    intro h
    obtain ⟨_, no⟩ := visible_of_quiet h (quiet_logThenCleanup _ _)
    cases no
  rw [visible_append, asked] at seen
  unfold checkedSpan at checked
  cases source : boyFindInterfaceEntryByIndex (dump.details.map interfaceEntry) sourceIfIndex with
  | none =>
    rw [source] at checked
    exact absurd checked refused
  | some sourceEntry =>
    cases destination : boyFindInterfaceEntryByName (dump.details.map interfaceEntry) name with
    | none =>
      rw [source, destination] at checked
      exact absurd checked refused
    | some destinationEntry =>
      simp only [source, destination] at checked
      split at checked
      · exact absurd checked refused
      · rename_i memif
        split at checked
        · exact absurd checked refused
        · rename_i apart
          refine ⟨dump, sourceEntry, destinationEntry, t₂, seen, complete, source, destination,
            apart, not_not.1 memif, ?_⟩
          have done :=
            (obeys_configureSpan sourceEntry destinationEntry deviceMode).done t₂ () checked
          intro c planned
          have sent : c ∈ (requests t₂).map (·.call) := by
            rw [done.order]
            exact List.mem_append_left _ planned
          obtain ⟨e, there, rfl⟩ := List.mem_map.1 sent
          refine ⟨e, ?_, rfl, done.acknowledged e there⟩
          rw [← requests_visible] at there
          exact List.mem_of_mem_filter there

/-- An interface that is up, or that a request brings up, is up behind the run. -/
theorem up_behind {w w' : Vpp} {tr : List BoyEvent} (served : Serves growingServe w tr w')
    {d : SwInterfaceDetails} (there : d ∈ w.interfaces)
    (planned : ∀ c ∈ adminUpPlan (interfaceEntry d), ∃ e ∈ tr, e.call = c ∧ Acknowledged e) :
    ∃ d' ∈ w'.interfaces, d'.fixed = d.fixed ∧ d'.IsUp := by
  by_cases up : d.IsUp
  · obtain ⟨d', there', same, stays⟩ := (grown_of_serves served).up d there
    exact ⟨d', there', same, stays up⟩
  · have down : (interfaceEntry d).flags &&& ifStatusApiFlagAdminUp = 0 := not_not.1 up
    have asked : BoyCall.swInterfaceSetFlags d.swIfIndex ifStatusApiFlagAdminUp ∈ adminUpPlan
        (interfaceEntry d) := by
      rw [adminUpPlan, if_pos down]
      exact List.mem_singleton_self _
    obtain ⟨⟨c, answer⟩, sent, called, acked⟩ := planned _ asked
    simp only at called
    subst called
    obtain ⟨t₁, t₂, rfl⟩ := List.append_of_mem sent
    obtain ⟨w₁, first, rest⟩ := serves_append_iff.1 served
    obtain ⟨w₂, step, last⟩ := serves_cons_iff.1 rest
    obtain ⟨d₁, there₁, same, _⟩ := (grown_of_serves first).up d there
    simp only [growingServe, vppServe] at step
    have acknowledged : answer.Acked := acked
    rw [if_pos acknowledged] at step
    have brought : (d₁.orFlags d.swIfIndex ifStatusApiFlagAdminUp).IsUp := by
      rw [← (same_of_fixed same).1]
      exact isUp_broughtUp d₁
    have there₂ : d₁.orFlags d.swIfIndex ifStatusApiFlagAdminUp ∈ w₂.interfaces := by
      rw [step]
      exact List.mem_map_of_mem there₁
    obtain ⟨d', there', same', stays⟩ := (grown_of_serves last).up _ there₂
    exact ⟨d', there', same'.trans ((fixed_orFlags _ _ d₁).trans same), stays brought⟩

theorem soundMirror_of_set {sourceIfIndex : UInt32} {name : CString}
    {deviceMode : BoySpanDeviceMode} {w w' : Vpp}
    {tr : List BoyEvent} (run : Exec vppServe (boySetSpan sourceIfIndex name deviceMode) w tr w' 0)
    {key : SpanKey}
    (target : spanTarget (w.interfaces.map interfaceEntry) sourceIfIndex name = some key) :
    SoundMirror w'.interfaces key (boySpanStateFromDeviceMode deviceMode) := by
  obtain ⟨dump, source, destination, t, seen, complete, bySource, byName, apart, memif, planned⟩ :=
    follows_configured run.follows
  have served := serves_visible run.serves
  rw [seen] at served
  obtain ⟨w₁, step, rest⟩ := serves_cons_iff.1 served
  obtain ⟨listing, same⟩ := step
  have details : dump.details = w.interfaces := by
    rcases listing with failed | rfl
    · exact absurd failed complete
    · exact VapiDump.details_listing _
  rw [same] at rest
  rw [details] at bySource byName
  unfold spanTarget at target
  rw [bySource, byName] at target
  simp only at target
  rw [if_pos ⟨memif, apart⟩] at target
  cases target
  obtain ⟨inside, _⟩ := mem_of_boyFindInterfaceEntryByIndex bySource
  obtain ⟨inside', _⟩ := mem_of_boyFindInterfaceEntryByName byName
  obtain ⟨d, there, rfl⟩ := List.mem_map.1 inside
  obtain ⟨d', there', rfl⟩ := List.mem_map.1 inside'
  refine ⟨rfl, apart, ⟨deviceMode, rfl⟩, ?_, ?_⟩
  · obtain ⟨d₁, there₁, fixed, up⟩ :=
      up_behind (serves_growing rest) there fun c hc => planned c (List.mem_append_left _ hc)
    exact ⟨d₁, there₁, (same_of_fixed fixed).1, up⟩
  · obtain ⟨d₁, there₁, fixed, up⟩ :=
      up_behind (serves_growing rest) there' fun c hc => planned c (List.mem_append_right _ hc)
    obtain ⟨index, named⟩ := same_of_fixed fixed
    exact ⟨d₁, there₁, index, by rw [named]; exact memif, up⟩

/-- An entry behind a run of `boy` was there in front of it, or is a sound mirror. -/
theorem kept_or_sound_of_line {posixlyCorrect : Bool} {argv : List CString} {w w' : Vpp}
    {tr : List BoyEvent} {rc : Int}
    (run : Exec growingServe (boyMain posixlyCorrect argv) w tr w' rc) {key : SpanKey}
    {state : SpanState} (there : w'.span.lookup key = some state) :
    w.span.lookup key = some state ∨ SoundMirror w'.interfaces key state := by
  have grown := grown_of_serves run.serves
  cases parsed : boyParseCliOptions posixlyCorrect argv with
  | error exit =>
    rcases lookup_of_line run grown key with same | ⟨gone, _⟩
    · rw [spanEffect, lineInvocation, parsed] at same
      exact .inl (same.symm.trans there)
    · rw [there] at gone
      cases gone
  | ok options =>
    have follows := run.follows
    rw [boyMain_eq parsed] at follows
    rcases invocation_of_follows follows with
      ⟨mode, name, _, _, program⟩ | ⟨mode, _, program⟩ | ⟨no_set, no_unset, _⟩
    · have served := serves_vppServe parsed run (by simp [mode])
      rw [program] at follows
      rcases set_of_exec ⟨follows, served⟩ with ⟨_, same⟩ | ⟨rfl, target, found, written⟩
      · rw [same] at there
        exact .inl there
      · rw [written, Store.lookup_write] at there
        split at there
        · rename_i own
          cases there
          rw [own]
          exact .inr (soundMirror_of_set ⟨follows, served⟩ found)
        · exact .inl there
    · have served := serves_vppServe parsed run (by simp [mode])
      rw [program] at follows
      obtain ⟨keys, _, removed⟩ := removed_of_exec ⟨follows, served⟩
      rw [removed key] at there
      split at there
      · cases there
      · exact .inl there
    · rw [span_of_other parsed run no_set no_unset] at there
      exact .inl there

theorem BoySession.kept_or_sound {posixlyCorrect : Bool} {w w' : Vpp}
    {log : List (List CString × Int)} (session : BoySession posixlyCorrect w log w')
    {key : SpanKey} {state : SpanState} (there : w'.span.lookup key = some state) :
    w.span.lookup key = some state ∨ SoundMirror w'.interfaces key state := by
  induction session with
  | nil w => exact .inl there
  | cons first rest ih =>
    rcases ih there with earlier | sound
    · rcases kept_or_sound_of_line first earlier with before | sound
      · exact .inl before
      · exact .inr (sound.grown rest.grown)
    · exact .inr sound

/-- **Every mirror stays sound.** Behind any use of `boy`, whatever the replies, an
entry was there before or goes from an interface to another that is a memif, both
of them up. If all entries but those of L2 were so, they are so in the end. -/
theorem mirrors_sound {posixlyCorrect : Bool} {w w' : Vpp} {log : List (List CString × Int)}
    (session : BoySession posixlyCorrect w log w') :
    (∀ key state, w'.span.lookup key = some state →
      w.span.lookup key = some state ∨ SoundMirror w'.interfaces key state) ∧
      (SoundMirrors w → SoundMirrors w') := by
  refine ⟨fun key state there => session.kept_or_sound there,
    fun before key state device there => ?_⟩
  rcases session.kept_or_sound there with earlier | sound
  · exact (before key state device earlier).grown session.grown
  · exact sound

/-- The new mirror is sound, although its source was down, and so is the one that
was there. -/
theorem set_session_sound :
    SoundMirror setByLine.2.1.shown.interfaces ⟨1, 5, false⟩ .rxTx ∧
      SoundMirror setByLine.2.1.shown.interfaces ⟨2, 5, false⟩ .rx := by
  have before : SoundMirrors mirroringVpp.shown := by
    intro key state device there
    have l2 : key ≠ ⟨2, 9, true⟩ := by
      rintro rfl
      cases device
    by_cases own : key = ⟨2, 5, false⟩
    · subst own
      cases there
      exact ⟨rfl, by decide, ⟨.rx, rfl⟩, ⟨_, .tail _ (.head _), rfl, by decide⟩,
        ⟨_, .tail _ (.tail _ (.head _)), rfl, rfl, by decide⟩⟩
    · have same : mirroringVpp.shown.span.lookup key = mirroringVpp.span.lookup key := rfl
      rw [same, mirroringVpp, AList.lookup_insert_ne l2, AList.lookup_insert_ne own,
        AList.lookup_empty] at there
      cases there
  have sound := (mirrors_sound (.cons exec_setLine (.nil _))).2 before
  exact ⟨sound ⟨1, 5, false⟩ .rxTx rfl rfl, sound ⟨2, 5, false⟩ .rx rfl rfl⟩

end BeastieBoy
