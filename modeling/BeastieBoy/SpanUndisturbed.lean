import BeastieBoy.AnsweringVpp
import BeastieBoy.SpanTrace

/-!
# Setting and removing when nothing fails

As long as the tables can be counted, VPP can let both commands run to their end:
no request has to fail, and no loop of theirs goes on for ever.
-/

namespace BeastieBoy

open CLib Interact Interact.Prog

/-- Some run from `w` without any failure ends as `R` says. -/
abbrev Permits {α : Type} (w : Vpp) (R : α → Vpp → Prop) (p : Boy α) : Prop :=
  p.May vppServe Acknowledged R w

/-- Some run from anywhere without any failure comes to an end. -/
abbrev Fluent {α : Type} (p : Boy α) : Prop := ∀ w, Permits w (fun _ _ => True) p

theorem permits_boyOpenVapi
    (w : Vpp) : Permits w (fun opened w' => opened.1 = 0 ∧ w' = w) boyOpenVapi := by
  refine ⟨VapiError.ok, w, rfl, rfl, ?_⟩
  refine ⟨VapiError.ok, w, rfl, rfl, ?_⟩
  exact ⟨rfl, rfl⟩

theorem fluent_boyCloseVapi (ctx : Bool) : Fluent (boyCloseVapi ctx) := by
  intro w
  cases ctx with
  | true =>
    exact ⟨(), w, rfl, trivial, (), w, rfl, trivial, trivial⟩
  | false => trivial

theorem fluent_boyLog (level : AppLogLevel) (format : String) (args : List BoyLogArg) :
    Fluent (boyLog level format args) := fun w => ⟨(), w, rfl, trivial, trivial⟩

/-! ## Collecting -/

theorem doubleUntil_isSome {requiredCount turns newCapacity : Nat} (small : requiredCount ≤ 2 ^ 62)
    (enough : requiredCount ≤ newCapacity * 2 ^ turns) :
    (doubleUntil requiredCount (turns + 1) newCapacity).isSome := by
  induction turns generalizing newCapacity with
  | zero =>
    have reached : ¬ newCapacity < requiredCount := by omega
    simp [doubleUntil, reached]
  | succ turns ih =>
    rw [doubleUntil]
    split
    · have fits : newCapacity * 2 % 2 ^ 64 = newCapacity * 2 := by omega
      rw [fits]
      apply ih
      have shifted : newCapacity * 2 * 2 ^ turns = newCapacity * 2 ^ (turns + 1) := by
        rw [pow_succ, Nat.mul_assoc, Nat.mul_comm 2]
      rwa [shifted]
    · rfl

theorem permits_reserve {w : Vpp} {capacity itemSize requiredCount : Nat}
    (small : requiredCount ≤ 2 ^ 62) :
    Permits w (fun r w' => r.1 = 0 ∧ w' = w) (reserve capacity itemSize requiredCount) := by
  unfold reserve
  split
  · exact ⟨rfl, rfl⟩
  · have grows : (doubleUntil requiredCount 65
        (if capacity = 0 then 8 else capacity * 2 % 2 ^ 64)).isSome := by
      apply doubleUntil_isSome small
      split
      · omega
      · have fits : capacity * 2 % 2 ^ 64 = capacity * 2 := by omega
        omega
    split
    · rename_i never
      rw [never] at grows
      cases grows
    · exact ⟨true, w, rfl, rfl, rfl, rfl⟩

section Collect
variable {Details Entry : Type} {itemSize : Nat} {entry : Details → Entry} {w : Vpp}

theorem permits_runDumpCallbacks {ds : List Details} {table : BoyTable Entry}
    (small : table.entries.length + ds.length ≤ 2 ^ 62) :
    Permits w (fun r w' => (r.1 = .ok ∧
      r.2.entries.length = table.entries.length + ds.length) ∧ w' = w)
      (runDumpCallbacks (boyDumpCb itemSize entry) (VapiDump.listing ds).callbacks table) := by
  induction ds generalizing table with
  | nil => exact ⟨⟨rfl, rfl⟩, rfl⟩
  | cons d ds ih =>
    rw [List.length_cons] at small
    have grown : Permits w
        (fun r w' => (r.1 = .ok ∧ r.2.entries.length = table.entries.length + 1) ∧ w' = w)
        (boyDumpCb itemSize entry table ⟨.ok, false, some d⟩) := by
      have room : table.entries.length + 1 ≤ 2 ^ 62 := by omega
      apply May.bind (permits_reserve room)
      rintro reserved w' ⟨zero, rfl⟩
      rw [if_neg (not_not.2 zero)]
      exact ⟨⟨rfl, by simp⟩, rfl⟩
    apply May.bind grown
    rintro result w' ⟨⟨ok, length⟩, rfl⟩
    rw [if_neg (not_not.2 ok)]
    have room : result.2.entries.length + ds.length ≤ 2 ^ 62 := by omega
    apply May.mono (ih room)
    rintro r w'' ⟨⟨ok, total⟩, rfl⟩
    exact ⟨⟨ok, by simp [total, length]; omega⟩, rfl⟩

/-- A dump that lists few enough can be collected. -/
theorem permits_boyCollect {message : String} {send : Boy (VapiDump Details)} {ds : List Details}
    {table : BoyTable Entry} (hsend : Permits w (fun dump w' => dump = .listing ds ∧ w' = w) send)
    (small : table.entries.length + ds.length ≤ 2 ^ 62) :
    Permits w (fun r w' => (r.1 = 0 ∧
      r.2.entries.length = table.entries.length + ds.length) ∧ w' = w)
      (boyCollect message send (boyDumpCb itemSize entry) table) := by
  refine ⟨true, w, rfl, rfl, ?_⟩
  apply May.bind hsend
  rintro dump w' ⟨rfl, rfl⟩
  apply May.bind (permits_runDumpCallbacks small)
  rintro result w' ⟨⟨ok, length⟩, rfl⟩
  rw [if_neg (not_not.2 ok)]
  exact ⟨⟨rfl, length⟩, rfl⟩

end Collect

/-- Every layer of a table can be listed, with no more than the table holds. -/
theorem exists_listing (t : SpanTable) (isL2 : Bool) :
    ∃ ds, Lists t isL2 ds ∧ ds.length ≤ t.keys.card := by
  induction t using Finmap.induction_on with
  | _ span =>
    let v : AnsweringVpp := ⟨[], span, []⟩
    refine ⟨v.listed isL2, v.lists_listed isL2, ?_⟩
    calc (v.listed isL2).length ≤ span.entries.length := by
          rw [AnsweringVpp.listed, List.length_map]
          exact List.length_filter_le _ _
      _ = span.keys.length := (List.length_map _).symm
      _ = span.toFinmap.keys.card := rfl

theorem permits_boyCollectInterfaces {w : Vpp} (small : w.interfaces.length ≤ 2 ^ 62) :
    Permits w (fun r w' => r.1 = 0 ∧ w' = w) (boyCollectInterfaces .empty) := by
  have asked : Permits w (fun dump w' => dump = .listing w.interfaces ∧ w' = w)
      (boyCall .swInterfaceDump) :=
    ⟨.listing w.interfaces, w, ⟨.inr rfl, rfl⟩, VapiDump.listing_not_failed _, rfl, rfl⟩
  have empty : (BoyTable.empty : BoyInterfaceTable).entries.length + w.interfaces.length ≤
      2 ^ 62 := by
    simpa [BoyTable.empty] using small
  apply May.mono (permits_boyCollect asked empty)
  rintro r w' ⟨⟨zero, _⟩, same⟩
  exact ⟨zero, same⟩

theorem permits_boyCollectSpan {w : Vpp} {isL2 : Bool} {table : BoySpanTable}
    (small : table.entries.length + w.span.keys.card ≤ 2 ^ 62) :
    Permits w (fun r w' => (r.1 = 0 ∧
        r.2.entries.length ≤ table.entries.length + w.span.keys.card) ∧ w' = w)
      (boyCollectSpan isL2 table) := by
  obtain ⟨ds, lists, few⟩ := exists_listing w.span isL2
  have asked : Permits w (fun dump w' => dump = .listing ds ∧ w' = w)
      (boyCall (.swInterfaceSpanDump isL2)) :=
    ⟨.listing ds, w, ⟨.inr ⟨ds, lists, rfl⟩, rfl⟩, VapiDump.listing_not_failed _, rfl, rfl⟩
  apply May.mono (permits_boyCollect asked (by omega))
  rintro r w' ⟨⟨zero, length⟩, same⟩
  exact ⟨⟨zero, by omega⟩, same⟩

/-! ## Attempts -/

theorem permits_orCleanup {α : Type} {w : Vpp} {R : α → Vpp → Prop} {m : Boy (Int × α)}
    (hm : Permits w (fun r w' => r.1 = 0 ∧ R r.2 w') m) :
    Permits w (fun o w' => ∃ a, o = some a ∧ R a w') (orCleanup m).run := by
  apply May.bind hm
  rintro r w' ⟨zero, answer⟩
  rw [if_neg (not_not.2 zero)]
  exact ⟨r.2, rfl, answer⟩

theorem fluent_unlessZero {m : Boy Int} (hm : Fluent m) : Fluent (unlessZero m).run :=
  fun w => (hm w).bind fun _ _ _ => trivial

theorem fluent_attempt {α β : Type} {m : Attempt α} {f : α → Attempt β} (hm : Fluent m.run)
    (hf : ∀ a, Fluent (f a).run) : Fluent (m >>= f).run :=
  fun w => (hm w).attempt (fun _ _ => trivial) fun a w' _ => hf a w'

theorem fluent_lift {α : Type} {p : Boy α} (hp : Fluent p) : Fluent (liftM p : Attempt α).run :=
  fun w => (hp w).bind fun _ _ _ => trivial

theorem permits_withVapi {operation : String} {body : Attempt Unit} {w : Vpp}
    (hbody : Permits w (fun _ _ => True) body.run) :
    Permits w (fun _ _ => True) (withVapi operation body) := by
  refine ⟨(), w, rfl, trivial, ?_⟩
  apply May.bind (permits_boyOpenVapi w)
  rintro opened w' ⟨zero, rfl⟩
  have code : Permits w' (fun _ _ => True) (cleanupCode opened.1 body) := by
    unfold cleanupCode
    rw [if_neg (not_not.2 zero)]
    exact hbody.bind fun _ _ _ => trivial
  apply May.bind code
  intro rc w'' _
  exact (fluent_boyCloseVapi _ w'').bind fun _ _ _ => trivial

/-! ## Requests -/

theorem fluent_boySetSpanEntry (swIfIndexFrom swIfIndexTo : UInt32) (state : SpanState)
    (isL2 : Bool) :
    Fluent (boySetSpanEntry swIfIndexFrom swIfIndexTo state isL2) := by
  intro w
  refine ⟨true, w, rfl, rfl, ?_⟩
  exact ⟨.replied .ok (some 0), _, (if_pos rfl).symm, rfl, trivial⟩

theorem fluent_boySetInterfaceAdminUp (swIfIndex : UInt32) :
    Fluent (boySetInterfaceAdminUp swIfIndex) := by
  intro w
  refine ⟨true, w, rfl, rfl, ?_⟩
  exact ⟨.replied .ok (some 0), _, (if_pos rfl).symm, rfl, trivial⟩

theorem fluent_bringUp (role : String) (entry : BoyInterfaceEntry) :
    Fluent (bringUp role entry).run := by
  unfold bringUp
  split
  · apply fluent_attempt (fluent_lift (fluent_boyLog _ _ _))
    exact fun _ => fluent_unlessZero (fluent_boySetInterfaceAdminUp _)
  · exact fun _ => trivial

theorem fluent_logThenCleanup {α : Type} (format : String) (args : List BoyLogArg) :
    Fluent (logThenCleanup (α := α) format args).run :=
  fun w => (fluent_boyLog _ format args w).bind fun _ _ _ => trivial

theorem fluent_configureSpan (sourceEntry destinationEntry : BoyInterfaceEntry)
    (deviceMode : BoySpanDeviceMode) :
    Fluent (configureSpan sourceEntry destinationEntry deviceMode).run := by
  apply fluent_attempt (fluent_bringUp _ _)
  intro _
  apply fluent_attempt (fluent_bringUp _ _)
  intro _
  apply fluent_attempt (fluent_lift (fluent_boyLog _ _ _))
  intro _
  apply fluent_attempt (fluent_unlessZero (fluent_boySetSpanEntry _ _ _ _))
  exact fun _ => fluent_lift (fluent_boyLog _ _ _)

theorem fluent_checkedSpan (interfaces : List BoyInterfaceEntry) (sourceIfIndex : UInt32)
    (destinationMemifName : CString) (deviceMode : BoySpanDeviceMode) :
    Fluent (checkedSpan interfaces sourceIfIndex destinationMemifName deviceMode).run := by
  unfold checkedSpan
  split
  · exact fluent_logThenCleanup _ _
  · split
    · exact fluent_logThenCleanup _ _
    · split
      · exact fluent_logThenCleanup _ _
      · split
        · exact fluent_logThenCleanup _ _
        · exact fluent_configureSpan _ _ _

theorem fluent_unsetSpanEntries (interfaces : List BoyInterfaceEntry) (sourceIfIndex : UInt32)
    (entries : List BoySpanEntry) (removed : Nat) :
    Fluent (unsetSpanEntries interfaces sourceIfIndex entries removed).run := by
  induction entries generalizing removed with
  | nil => exact fun _ => trivial
  | cons entry entries ih =>
    unfold unsetSpanEntries
    split
    · exact ih removed
    · apply fluent_attempt (fluent_lift (fluent_boyLog _ _ _))
      intro _
      apply fluent_attempt (fluent_unlessZero (fluent_boySetSpanEntry _ _ _ _))
      exact fun _ => ih _

theorem fluent_reportRemoved (removed : Nat) (sourceIfIndex : UInt32) (sourceName : CString) :
    Fluent (reportRemoved removed sourceIfIndex sourceName) := by
  unfold reportRemoved
  split
  · exact fluent_boyLog _ _ _
  · exact fluent_boyLog _ _ _

/-! ## The commands -/

theorem permits_boySetSpan {w : Vpp} (small : w.interfaces.length ≤ 2 ^ 62) (sourceIfIndex : UInt32)
    (destinationMemifName : CString) (deviceMode : BoySpanDeviceMode) :
    Permits w (fun _ _ => True) (boySetSpan sourceIfIndex destinationMemifName deviceMode) := by
  apply permits_withVapi
  apply May.attempt (permits_orCleanup (R := fun _ w' => w' = w)
    (permits_boyCollectInterfaces small))
  · exact fun _ _ => trivial
  · rintro interfaces w' _
    exact fluent_checkedSpan _ _ _ _ w'

theorem permits_boyUnsetSpan {w : Vpp} (small : w.interfaces.length ≤ 2 ^ 62)
    (few : w.span.keys.card ≤ 2 ^ 61) (sourceIfIndex : UInt32) :
    Permits w (fun _ _ => True) (boyUnsetSpan sourceIfIndex) := by
  apply permits_withVapi
  apply May.attempt (permits_orCleanup (R := fun _ w' => w' = w)
    (permits_boyCollectInterfaces small))
  · exact fun _ _ => trivial
  rintro interfaces w' ⟨_, _, rfl⟩
  have dev : Permits w' (fun o w'' => ∃ first, o = some first ∧
    first.entries.length ≤ 2 ^ 61 ∧ w'' = w')
      (orCleanup (boyCollectSpan false .empty)).run := by
    have room : (BoyTable.empty : BoySpanTable).entries.length + w'.span.keys.card ≤ 2 ^ 62 := by
      simp only [BoyTable.empty, List.length_nil]
      omega
    apply permits_orCleanup (R := fun (first : BoySpanTable) w'' => first.entries.length ≤
      2 ^ 61 ∧ w'' = w')
    apply May.mono (permits_boyCollectSpan room)
    rintro r w'' ⟨⟨zero, length⟩, same⟩
    simp only [BoyTable.empty, List.length_nil] at length
    exact ⟨zero, by omega, same⟩
  apply May.attempt dev
  · exact fun _ _ => trivial
  rintro first w'' ⟨first', h, length, rfl⟩
  obtain rfl := Option.some.inj h
  have l2 : Permits w'' (fun o _ => ∃ entries, o = some entries ∧ True)
      (orCleanup (boyCollectSpan true first)).run := by
    apply permits_orCleanup (R := fun _ _ => True)
    apply May.mono (permits_boyCollectSpan (by omega))
    rintro r _ ⟨⟨zero, _⟩, _⟩
    exact ⟨zero, trivial⟩
  apply May.attempt l2
  · exact fun _ _ => trivial
  rintro entries w₃ _
  have loop := fluent_unsetSpanEntries interfaces.entries sourceIfIndex entries.entries 0
  exact fluent_attempt loop (fun _ => fluent_lift (fluent_reportRemoved _ _ _)) w₃

end BeastieBoy
