import BeastieBoy.PhyCmd
import BeastieBoy.SpanShow

/-!
# Showing the physical interfaces

A run of `boy_show_phy` renders one table at most: a row for every physical
interface of its dump, in the order of the dump. What VPP's output tells changes
the card families and nothing else.
-/

namespace BeastieBoy

open CLib Interact Interact.Prog

def BoyCall.renders : BoyCall → Bool
  | .appTableRender .. => true
  | _ => false

/-- Nothing is rendered, and the answer satisfies `R`. -/
abbrev Unrendered {α : Type} (R : α → Prop) (p : Boy α) : Prop :=
  p.Only (fun c => c.renders = false) R

theorem unrendered_of_quiet {α : Type} {R : α → Prop} {p : Boy α} (h : Quiet R p) :
    Unrendered R p := by
  apply h.mono _ fun _ h => h
  intro c hidden
  cases c with
  | appTableRender => cases hidden
  | _ => rfl

theorem unrendered_call {c : BoyCall} (h : c.renders = false) :
    Unrendered (fun _ => True) (boyCall c) :=
  ⟨h, fun _ => trivial⟩

theorem unrendered_log (level : AppLogLevel) (format : String) (args : List BoyLogArg) :
    Unrendered (fun _ => True) (boyLog level format args) := unrendered_call rfl

theorem rendered_of_unrendered {α : Type} {R : α → Prop} {p : Boy α} {tr : List BoyEvent} {a : α}
    (h : Follows p tr a) (hp : Unrendered R p) : tr.filterMap renderedTable = [] ∧ R a := by
  obtain ⟨calls, answer⟩ := h.of_only hp
  refine ⟨List.filterMap_eq_nil_iff.2 fun e he => ?_, answer⟩
  obtain ⟨c, r⟩ := e
  have hidden := calls _ he
  cases c with
  | appTableRender => cases hidden
  | _ => rfl

/-! ## The card families -/

/-- An entry but for its card family. -/
def bare (entry : BoyInterfaceEntry) : BoyInterfaceEntry := { entry with cardFamily := [] }

/-- The same entries, whatever their card families. -/
def Refamilied (interfaces interfaces' : List BoyInterfaceEntry) : Prop :=
  interfaces'.map bare = interfaces.map bare

theorem refamilied_setCardFamily (interfaces : List BoyInterfaceEntry) (i : Nat)
    (family : CString) :
    Refamilied interfaces (setCardFamily interfaces i family) := by
  apply List.ext_getElem?
  intro j
  rw [setCardFamily, List.getElem?_map, List.getElem?_map, List.getElem?_modify]
  cases interfaces[j]? with
  | none => rfl
  | some entry =>
    simp only [Option.map_eq_map, Option.map_some, Option.some.injEq]
    split
    · rfl
    · rfl

theorem refamilied_readLine (s : CardFamilyScan) (token : CString) :
    Refamilied s.interfaces (s.readLine token).interfaces := by
  unfold CardFamilyScan.readLine
  split
  · rfl
  · unfold CardFamilyScan.step
    repeat' split
    all_goals first
      | rfl
      | exact refamilied_setCardFamily _ _ _

theorem refamilied_foldl (tokens : List CString) (s : CardFamilyScan) :
    Refamilied s.interfaces (tokens.foldl CardFamilyScan.readLine s).interfaces := by
  induction tokens generalizing s with
  | nil => rfl
  | cons token tokens ih => exact (ih (s.readLine token)).trans (refamilied_readLine s token)

theorem unrendered_boyOverride (interfaces : List BoyInterfaceEntry) (cliOutput : Option CString) :
    Unrendered (Refamilied interfaces)
      (boyOverrideCardFamilyFromCliOutput interfaces cliOutput) := by
  unfold boyOverrideCardFamilyFromCliOutput
  split
  · rfl
  · split
    · rfl
    · apply (unrendered_call rfl).bind
      intro granted _
      split
      · exact refamilied_foldl _ ⟨interfaces, none, false⟩
      · rfl

theorem unrendered_runReturnCb (answer : VapiReturn CliInbandReply) :
    Unrendered (fun _ => True) (runReturnCb boyCliInbandCb answer) := by
  cases answer with
  | silent err => trivial
  | replied rv reply =>
    have unfolded : runReturnCb boyCliInbandCb (.replied rv reply) = boyCliInbandCb rv reply := rfl
    rw [unfolded]
    unfold boyCliInbandCb
    split
    · trivial
    · cases reply with
      | none => trivial
      | some reply =>
        apply (unrendered_call rfl).bind
        intro granted _
        split
        · trivial
        · trivial

theorem unrendered_boyFetchShowHardwareOutput :
    Unrendered (fun _ => True) boyFetchShowHardwareOutput := by
  apply (unrendered_call rfl).bind
  intro allocated _
  split
  · apply (unrendered_call rfl).bind
    intro answer _
    apply (unrendered_runReturnCb answer).bind
    intro result _
    split
    · exact (unrendered_log _ _ _).bind fun _ _ => trivial
    · split
      · exact (unrendered_log _ _ _).bind fun _ _ => trivial
      · split
        · exact (unrendered_log _ _ _).bind fun _ _ => trivial
        · trivial
  · exact (unrendered_log _ _ _).bind fun _ _ => trivial

/-- `using interface_dev_type as card family fallback`, or what VPP's output says. -/
theorem unrendered_cardFamilies (interfaces : List BoyInterfaceEntry) :
    Unrendered (Refamilied interfaces) (cardFamilies interfaces) := by
  apply unrendered_boyFetchShowHardwareOutput.bind
  intro fetched _
  split
  · exact unrendered_boyOverride interfaces fetched.2
  · apply (unrendered_log _ _ _).bind
    intro _ _
    rfl

/-! ## The rows -/

theorem quiet_showPhyTable :
    Quiet (fun o => ∀ table, o = some table → table.columns = phyColumns ∧ table.rows = [])
      showPhyTable.run := quiet_tableOrCleanup _ _

theorem quiet_showPhyRow {table : AppTable} (six : table.columns.length = 6)
    (entry : BoyInterfaceEntry) :
    Quiet (Appends table [phyRow entry]) (showPhyRow table entry).run := by
  have whole : (phyRow entry).length = table.columns.length := six.symm
  exact quiet_rowOrCleanup whole _

/-- The rows of the physical interfaces, in the order of the table. -/
def phyRows (entries : List BoyInterfaceEntry) : List (List (Option CString)) :=
  (entries.filter boyIsPhysicalInterface).map phyRow

theorem quiet_showPhyInterfaces (entries : List BoyInterfaceEntry) {table : AppTable}
    (six : table.columns.length = 6) (shown : Nat) :
    Quiet (fun o => ∀ result, o = some result → result.1.Extends table (phyRows entries))
      (showPhyInterfaces entries table shown).run := by
  induction entries generalizing table shown with
  | nil =>
    intro result h
    rw [← Option.some.inj h]
    exact table.extends_refl
  | cons entry entries ih =>
    unfold showPhyInterfaces
    split
    · rename_i other
      rw [phyRows, List.filter_cons_of_neg other]
      exact ih six shown
    · rename_i physical
      rw [not_not] at physical
      rw [phyRows, List.filter_cons_of_pos physical]
      apply Only.attempt (quiet_showPhyRow six entry)
      · intro _ _ h
        cases h
      intro table' added
      have grown := added table' rfl
      apply (ih (by rw [grown.1, six]) _).mono (fun _ h => h)
      intro o ho result h
      exact grown.trans (ho result h)

theorem unrendered_noneFound (shown : Nat) :
    Unrendered (· = some ())
      (if shown = 0 then (boyLog .info "no physical interfaces found" [] : Attempt Unit)
        else pure ()).run := by
  split
  · apply (unrendered_log _ _ _).bind
    intro _ _
    rfl
  · rfl

/-! ## The command -/

/-- A run of `boy_show_phy` renders nothing and returns 1, or it renders the
physical interfaces of its dump and returns 0. -/
theorem follows_boyShowPhy {tr : List BoyEvent} {rc : Int} (h : Follows boyShowPhy tr rc) :
    rc = 1 ∧ tr.filterMap renderedTable = [] ∨
      rc = 0 ∧ ∃ ifs entries table, ⟨.swInterfaceDump, ifs⟩ ∈ tr ∧
        Refamilied (ifs.details.map interfaceEntry) entries ∧ tr.filterMap renderedTable = [table] ∧
        table.columns = phyColumns ∧ table.rows = phyRows entries := by
  rw [← renderedTable_visible]
  rcases follows_withVapi h with ⟨nothing, rfl, _⟩ | ⟨t, finished, seen, within, body, rfl⟩
  · exact .inl ⟨rfl, by rw [nothing]; rfl⟩
  rw [seen, renderedTable_visible]
  rcases follows_attempt_iff.1 body with ⟨no, rfl⟩ | ⟨t₁, interfaces, t₂, rfl, got, rest⟩
  · exact .inl ⟨rfl, (follows_gotInterfaces no).1.filterMap_eq_nil renderedTable_unseen
      (fun _ => rfl) fun _ _ => rfl⟩
  obtain ⟨dumps, listed⟩ := follows_gotInterfaces got
  obtain ⟨ifs, asked, _, entries⟩ := listed interfaces rfl
  have none₁ := dumps.filterMap_eq_nil renderedTable_unseen (fun _ => rfl) fun _ _ => rfl
  have dumped : ⟨.swInterfaceDump, ifs⟩ ∈ t₁ :=
    mem_of_mem_visible (by rw [asked]; exact List.mem_singleton.2 rfl)
  obtain ⟨t₃, named, t₄, rfl, naming, rest⟩ := follows_lifted rest
  obtain ⟨none₃, families⟩ := rendered_of_unrendered naming (unrendered_cardFamilies _)
  rcases follows_attempt_iff.1 rest with ⟨no, rfl⟩ | ⟨t₅, table, t₆, rfl, made, rest⟩
  · have none₅ := (rendered_of_unrendered no (unrendered_of_quiet quiet_showPhyTable)).1
    exact .inl ⟨rfl, by simp [none₁, none₃, none₅]⟩
  obtain ⟨none₅, fresh⟩ := rendered_of_unrendered made (unrendered_of_quiet quiet_showPhyTable)
  obtain ⟨columns, noRows⟩ := fresh table rfl
  have six : table.columns.length = 6 := by
    rw [columns]
    rfl
  have filling := unrendered_of_quiet (quiet_showPhyInterfaces named six 0)
  rcases follows_attempt_iff.1 rest with ⟨no, rfl⟩ | ⟨t₇, shown, t₈, rfl, filled, rest⟩
  · have none₇ := (rendered_of_unrendered no filling).1
    exact .inl ⟨rfl, by simp [none₁, none₃, none₅, none₇]⟩
  obtain ⟨none₇, grown⟩ := rendered_of_unrendered filled filling
  obtain ⟨columns', rows⟩ := grown shown rfl
  obtain ⟨t₉, _, t₁₀, rfl, rendering, ending⟩ := follows_lifted rest
  obtain ⟨widths, rendered⟩ := follows_runAppTableRender rendering
  have one : t₉.filterMap renderedTable = [shown.1] := by
    rcases rendered with rfl | rfl
    · rfl
    · rfl
  obtain ⟨none₉, rfl⟩ := rendered_of_unrendered ending (unrendered_noneFound shown.2)
  rw [entries] at families
  refine .inr ⟨rfl, ifs, named, shown.1, within (by simp [dumped]), families, ?_,
    columns'.trans columns, ?_⟩
  · simp [none₁, none₃, none₅, none₇, none₉, one]
  · rw [rows, noRows, List.nil_append]

end BeastieBoy
