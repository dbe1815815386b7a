import BeastieBoy.SpanTrace

/-!
# Setting a SPAN entry

`boy_set_span` looks its source up by index and its destination by name in one
dump, and enables one key or none. Which key that is depends only on the
indices and names of the dump.
-/

namespace BeastieBoy

open CLib Interact Interact.Prog

/-- The key `boy_set_span` enables, if its operands pass the tests. -/
def spanTarget (interfaces : List BoyInterfaceEntry) (sourceIfIndex : UInt32)
    (destinationMemifName : CString) : Option SpanKey :=
  match boyFindInterfaceEntryByIndex interfaces sourceIfIndex,
    boyFindInterfaceEntryByName interfaces destinationMemifName with
  | some sourceEntry, some destinationEntry =>
    if namesMemif destinationEntry.interfaceName ∧
      sourceEntry.swIfIndex ≠ destinationEntry.swIfIndex then
      some ⟨sourceEntry.swIfIndex, destinationEntry.swIfIndex, false⟩
    else none
  | _, _ => none

/-- The flags of the interfaces play no part in it. -/
theorem spanTarget_fixed (interfaces : List SwInterfaceDetails) (sourceIfIndex : UInt32)
    (destinationMemifName : CString) :
    spanTarget ((interfaces.map (·.fixed)).map interfaceEntry) sourceIfIndex destinationMemifName =
      spanTarget (interfaces.map interfaceEntry) sourceIfIndex destinationMemifName := by
  have byIndex : boyFindInterfaceEntryByIndex
    ((interfaces.map (·.fixed)).map interfaceEntry) sourceIfIndex =
      (interfaces.find? (·.swIfIndex = sourceIfIndex)).map fun d => interfaceEntry d.fixed := by
    rw [boyFindInterfaceEntryByIndex, List.map_map, List.find?_map]
    rfl
  have byIndex' : boyFindInterfaceEntryByIndex (interfaces.map interfaceEntry) sourceIfIndex =
      (interfaces.find? (·.swIfIndex = sourceIfIndex)).map interfaceEntry := by
    rw [boyFindInterfaceEntryByIndex, List.find?_map]
    rfl
  have byName : boyFindInterfaceEntryByName ((interfaces.map (·.fixed)).map interfaceEntry)
      destinationMemifName = (interfaces.find? fun d =>
        (interfaceEntry d).interfaceName = destinationMemifName).map
          fun d => interfaceEntry d.fixed := by
    rw [boyFindInterfaceEntryByName, List.map_map, List.find?_map]
    rfl
  have byName' : boyFindInterfaceEntryByName (interfaces.map interfaceEntry) destinationMemifName =
      (interfaces.find? fun d =>
        (interfaceEntry d).interfaceName = destinationMemifName).map interfaceEntry := by
    rw [boyFindInterfaceEntryByName, List.find?_map]
    rfl
  unfold spanTarget
  rw [byIndex, byIndex', byName, byName']
  cases interfaces.find? (·.swIfIndex = sourceIfIndex) with
  | none => rfl
  | some source =>
    cases interfaces.find? fun d => (interfaceEntry d).interfaceName = destinationMemifName with
    | none => rfl
    | some destination => rfl

theorem spanTarget_congr {l l' : List SwInterfaceDetails} (h : l.map (·.fixed) = l'.map (·.fixed))
    (sourceIfIndex : UInt32) (destinationMemifName : CString) :
    spanTarget (l.map interfaceEntry) sourceIfIndex destinationMemifName =
      spanTarget (l'.map interfaceEntry) sourceIfIndex destinationMemifName := by
  rw [← spanTarget_fixed l, h, spanTarget_fixed l']

/-- Bringing an interface up sends no SPAN request. -/
theorem follows_bringUp {role : String} {entry : BoyInterfaceEntry} {tr : List BoyEvent}
    {o : Option Unit} (h : Follows (bringUp role entry).run tr o) : spanWrites tr = [] := by
  unfold bringUp at h
  split at h
  · obtain ⟨t₁, t₂, rfl, logged, rest⟩ := follows_lift_bind h
    obtain rfl := follows_boyLog logged
    obtain ⟨rc, asked, _⟩ := follows_unlessZero rest
    have flags : spanWrites t₂ = [] := by
      rw [← spanWrites_visible]
      rcases follows_boySetInterfaceAdminUp asked with ⟨nothing, _⟩ | ⟨answer, sent, _⟩
      · rw [nothing]
        rfl
      · rw [sent]
        rfl
    simp [flags]
  · obtain ⟨rfl, rfl⟩ := follows_done_iff.1 h
    rfl

theorem bringUp_succeeds (role : String) (entry : BoyInterfaceEntry) :
    Succeeds (·.isSome = true) (bringUp role entry).run := by
  unfold bringUp
  split
  · apply attempt_succeeds (lift_succeeds _)
    exact fun _ => unlessZero_succeeds (boySetInterfaceAdminUp_succeeds _)
  · rfl

/-- The one SPAN request of `boy_set_span`, if it gets that far. -/
theorem follows_configureSpan {sourceEntry destinationEntry : BoyInterfaceEntry}
    {deviceMode : BoySpanDeviceMode} {tr : List BoyEvent} {o : Option Unit}
    (h : Follows (configureSpan sourceEntry destinationEntry deviceMode).run tr o) :
    o = none ∧ spanWrites tr = [] ∨
      o = some () ∧ spanWrites tr = [spanWrite sourceEntry.swIfIndex destinationEntry.swIfIndex
        (boySpanStateFromDeviceMode deviceMode) false] := by
  rcases follows_attempt_iff.1 h with ⟨up, rfl⟩ | ⟨t₁, _, t₂, rfl, up, h₂⟩
  · exact .inl ⟨rfl, follows_bringUp up⟩
  have source := follows_bringUp up
  rcases follows_attempt_iff.1 h₂ with ⟨up', rfl⟩ | ⟨t₃, _, t₄, rfl, up', h₄⟩
  · exact .inl ⟨rfl, by simp [source, follows_bringUp up']⟩
  have destination := follows_bringUp up'
  obtain ⟨t₅, t₆, rfl, logged, h₆⟩ := follows_lift_bind h₄
  obtain rfl := follows_boyLog logged
  rcases follows_attempt_iff.1 h₆ with ⟨entry, rfl⟩ | ⟨t₇, _, t₈, rfl, entry, h₈⟩
  · obtain ⟨rc, asked, verdict⟩ := follows_unlessZero entry
    rcases spanWrites_boySetSpanEntry asked with ⟨zero, _⟩ | ⟨_, nothing⟩
    · simp [zero] at verdict
    · exact .inl ⟨rfl, by simp [source, destination, nothing]⟩
  · obtain ⟨rc, asked, verdict⟩ := follows_unlessZero entry
    obtain ⟨_, rfl, ended⟩ := follows_lift_iff.1 h₈
    obtain rfl := follows_boyLog ended
    rcases spanWrites_boySetSpanEntry asked with ⟨_, written⟩ | ⟨refused, _⟩
    · exact .inr ⟨rfl, by simp [source, destination, written]⟩
    · simp [refused] at verdict

theorem configureSpan_succeeds (sourceEntry destinationEntry : BoyInterfaceEntry)
    (deviceMode : BoySpanDeviceMode) :
    Succeeds (·.isSome = true) (configureSpan sourceEntry destinationEntry deviceMode).run := by
  apply attempt_succeeds (bringUp_succeeds _ _)
  intro _
  apply attempt_succeeds (bringUp_succeeds _ _)
  intro _
  apply attempt_succeeds (lift_succeeds _)
  intro _
  apply attempt_succeeds (unlessZero_succeeds (boySetSpanEntry_succeeds _ _ _ _))
  exact fun _ => lift_succeeds _

theorem spanWrite_deviceMode (swIfIndexFrom swIfIndexTo : UInt32) (deviceMode : BoySpanDeviceMode)
    (isL2 : Bool) :
    spanWrite swIfIndexFrom swIfIndexTo (boySpanStateFromDeviceMode deviceMode) isL2 =
      ⟨⟨swIfIndexFrom, swIfIndexTo, isL2⟩, some (boySpanStateFromDeviceMode deviceMode)⟩ := by
  cases deviceMode with
  | rx => rfl
  | tx => rfl
  | both => rfl

/-- A target is written, unless a reply fails; without one nothing is asked. -/
theorem follows_checkedSpan {entries : List BoyInterfaceEntry} {sourceIfIndex : UInt32}
    {destinationMemifName : CString} {deviceMode : BoySpanDeviceMode} {tr : List BoyEvent}
    {o : Option Unit}
    (h : Follows (checkedSpan entries sourceIfIndex destinationMemifName deviceMode).run tr o) :
    spanTarget entries sourceIfIndex destinationMemifName = none ∧ o = none ∧ spanWrites tr = [] ∨
      ∃ key, spanTarget entries sourceIfIndex destinationMemifName = some key ∧
        (o = none ∧ spanWrites tr = [] ∧ ¬ (∀ e ∈ tr, Acknowledged e) ∨
          o = some () ∧ spanWrites tr = [⟨key, some (boySpanStateFromDeviceMode deviceMode)⟩]) := by
  have refused {format : String} {args : List BoyLogArg}
      (h : Follows (logThenCleanup (α := Unit) format args).run tr o) :
      o = none ∧ spanWrites tr = [] := by
    obtain ⟨nothing, given_up⟩ := visible_of_quiet h (quiet_logThenCleanup _ _)
    exact ⟨given_up, by rw [← spanWrites_visible, nothing]; rfl⟩
  unfold checkedSpan at h
  unfold spanTarget
  cases source : boyFindInterfaceEntryByIndex entries sourceIfIndex with
  | none => exact .inl ⟨rfl, refused (by simpa [source] using h)⟩
  | some sourceEntry =>
    cases destination : boyFindInterfaceEntryByName entries destinationMemifName with
    | none => exact .inl ⟨rfl, refused (by simpa [source, destination] using h)⟩
    | some destinationEntry =>
      simp only [source, destination] at h ⊢
      by_cases memif : namesMemif destinationEntry.interfaceName = true
      · by_cases same : sourceEntry.swIfIndex = destinationEntry.swIfIndex
        · rw [if_neg (not_not.2 memif), if_pos same] at h
          exact .inl ⟨if_neg fun both => both.2 same, refused h⟩
        · rw [if_neg (not_not.2 memif), if_neg same] at h
          refine .inr ⟨_, if_pos ⟨memif, same⟩, ?_⟩
          rcases follows_configureSpan h with ⟨rfl, nothing⟩ | ⟨done, written⟩
          · refine .inl ⟨rfl, nothing, fun all => ?_⟩
            exact absurd (h.of_given all (configureSpan_succeeds _ _ _)) (by decide)
          · exact .inr ⟨done, by rw [written, spanWrite_deviceMode]⟩
      · rw [if_pos memif] at h
        exact .inl ⟨if_neg fun both => memif both.1, refused h⟩

/-- A run of `boy_set_span` is stopped by a failure, or its dump decides: it
writes the target, if there is one, and returns 0 exactly then. -/
theorem follows_boySetSpan {sourceIfIndex : UInt32} {destinationMemifName : CString}
    {deviceMode : BoySpanDeviceMode} {tr : List BoyEvent} {rc : Int}
    (h : Follows (boySetSpan sourceIfIndex destinationMemifName deviceMode) tr rc) :
    rc = 1 ∧ spanWrites tr = [] ∧ ¬ (∀ e ∈ tr, Acknowledged e) ∨
      ∃ ifs, ⟨.swInterfaceDump, ifs⟩ ∈ tr ∧ ¬ ifs.Failed ∧
        (spanTarget (ifs.details.map interfaceEntry) sourceIfIndex destinationMemifName =
          none ∧ rc = 1 ∧
            spanWrites tr = [] ∨
          ∃ key, spanTarget (ifs.details.map interfaceEntry) sourceIfIndex destinationMemifName =
            some key ∧
            rc = 0 ∧ spanWrites tr = [⟨key, some (boySpanStateFromDeviceMode deviceMode)⟩]) := by
  rw [← spanWrites_visible]
  rcases follows_withVapi h with ⟨nothing, rfl, failed⟩ | ⟨t, finished, seen, within, body, rfl⟩
  · exact .inl ⟨rfl, by rw [nothing]; rfl, failed⟩
  rw [seen, spanWrites_visible]
  rcases follows_attempt_iff.1 body with ⟨got, rfl⟩ | ⟨t₁, interfaces, t₂, rfl, got, rest⟩
  · refine .inl ⟨rfl, ?_, fun all => ?_⟩
    · rw [spanWrites, (follows_gotInterfaces got).1.spanRequests]
      rfl
    · have finds := got.of_given (fun e he => all e (within he))
        (orCleanup_succeeds (boyCollectInterfaces_succeeds _))
      cases finds
  · obtain ⟨dumps, listing⟩ := follows_gotInterfaces got
    obtain ⟨ifs, asked, complete, listed⟩ := listing interfaces rfl
    have quiet : spanWrites t₁ = [] := by
      rw [spanWrites, dumps.spanRequests]
      rfl
    have there : (⟨.swInterfaceDump, ifs⟩ : BoyEvent) ∈ tr := by
      apply within
      apply List.mem_append_left
      apply mem_of_mem_visible
      simp [asked]
    have entries : interfaces.entries = ifs.details.map interfaceEntry := by
      simpa [BoyTable.empty] using listed
    rw [spanWrites_append, quiet, List.nil_append]
    rcases follows_checkedSpan rest with ⟨no, rfl, nothing⟩ | ⟨key, target, ending⟩
    · exact .inr ⟨ifs, there, complete, .inl ⟨entries ▸ no, rfl, nothing⟩⟩
    · rcases ending with ⟨rfl, nothing, failed⟩ | ⟨rfl, written⟩
      · refine .inl ⟨rfl, nothing, fun all => failed fun e he => all e ?_⟩
        exact within (List.mem_append_right _ he)
      · exact .inr ⟨ifs, there, complete, .inr ⟨key, entries ▸ target, rfl, written⟩⟩

end BeastieBoy
