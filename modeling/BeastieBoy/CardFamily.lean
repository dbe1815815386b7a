import BeastieBoy.PhyCmd
import BeastieBoy.SpanTrace

/-!
# The card families that VPP's output names

`boy_override_card_family_from_cli_output` reads the output line by line and
remembers the interface it is at and whether a family may follow. Of every
interface this finds the same as looking at two lines at a time: `FamilyLine`
says which line tells a family, and the last such line wins.
-/

namespace BeastieBoy

open CLib Interact Interact.Prog

/-! ## What the lines tell -/

/-- The lines, without the blanks behind them and without blank ones. -/
def outputLines (text : CString) : List CString :=
  ((text.splitOn '\n').map boyRtrim).filter (· ≠ [])

def firstToken (line : CString) : CString := (line.dropWhile isspace).takeWhile fun c => !isspace c

/-- The line is complete, and entry `i` is the first one it names, a physical one. -/
structure Resolves (interfaces : List BoyInterfaceEntry) (line : CString) (i : Nat) : Prop where
  complete : (scanHeader line).isSome = true
  named : ∃ entry, interfaces[i]? = some entry ∧ entry.interfaceName = (firstToken line).take 64 ∧
    boyIsPhysicalInterface entry = true
  first : ∀ j < i, ∀ entry, interfaces[j]? = some entry →
    entry.interfaceName ≠ (firstToken line).take 64

/-- The nearest header above line `k`. -/
def headerAbove (lines : List CString) (k : Nat) : Option CString :=
  (lines.take k).reverse.find? isHeader

def NamesAddress (line : CString) : Prop := isHeader line = false ∧ addressPrefix <+: ltrim line

/-- Line `k + 1` tells the family of entry `i`. -/
structure FamilyLine (interfaces : List BoyInterfaceEntry) (lines : List CString) (i k : Nat)
    (line : CString) : Prop where
  here : lines[k + 1]? = some line
  indented : isHeader line = false
  no_address : ¬ addressPrefix <+: ltrim line
  no_carrier : ¬ carrierPrefix <+: ltrim line
  no_colon : ':' ∉ line
  below_address : ∃ before, lines[k]? = some before ∧ NamesAddress before
  in_section : ∃ header, headerAbove lines (k + 1) = some header ∧ Resolves interfaces header i

/-- The family is told by the last of these lines, or is what it was. -/
def IsFamily (interfaces : List BoyInterfaceEntry) (lines : List CString) (i : Nat)
    (old family : CString) : Prop :=
  (∃ k line, FamilyLine interfaces lines i k line ∧
      (∀ k' line', FamilyLine interfaces lines i k' line' → k' ≤ k) ∧
        family = (ltrim line).take 64) ∨
    (∀ k line, ¬ FamilyLine interfaces lines i k line) ∧ family = old

/-! ## The lines of the loop -/

theorem isBlank_imp_trimmed {c : Char} (h : isBlank c = true) : (isBlank c || c = '\r') = true := by
  simp [h]

/-- A line that ends in something else is not blank in front either. -/
theorem ltrim_boyRtrim_ne_nil {token : CString} (h : boyRtrim token ≠ []) :
    ltrim (boyRtrim token) ≠ [] := by
  intro all
  have last := List.rdropWhile_last_not _ token h
  apply last
  apply isBlank_imp_trimmed
  exact List.dropWhile_eq_nil_iff.1 all _ (List.getLast_mem h)

theorem readLine_eq (s : CardFamilyScan) (token : CString) :
    s.readLine token = if boyRtrim token = [] then s else s.step (boyRtrim token) := by
  by_cases empty : boyRtrim token = []
  · simp [CardFamilyScan.readLine, ltrim, empty]
  · rw [CardFamilyScan.readLine, if_neg (ltrim_boyRtrim_ne_nil empty), if_neg empty]

theorem foldl_readLine (s : CardFamilyScan) (text : CString) :
    (tokens '\n' text).foldl CardFamilyScan.readLine s =
      (outputLines text).foldl CardFamilyScan.step s := by
  have lines : outputLines text = ((tokens '\n' text).map boyRtrim).filter (· ≠ []) := by
    rw [tokens_eq, Layout.words, outputLines, List.filter_map, List.filter_map, List.filter_filter]
    congr 1
    apply List.filter_congr
    intro token _
    cases token with
    | nil => rfl
    | cons c token => simp
  rw [lines, List.foldl_filter, List.foldl_map]
  congr 1
  funext s token
  rw [readLine_eq]
  by_cases empty : boyRtrim token = [] <;> simp [empty]

/-! ## Headers -/

theorem scanString_eq {width : Nat} {line read rest : CString}
    (h : scanString width line = some (read, rest)) :
    read = (firstToken line).take width := by
  simp only [scanString] at h
  split at h
  · cases h
  · rw [Option.some.injEq, Prod.mk.injEq] at h
    exact h.1.symm

theorem ifName_of_scanHeader {line ifName link : CString} {idx : Nat}
    (h : scanHeader line = some (ifName, idx, link)) : ifName = (firstToken line).take 64 := by
  simp only [scanHeader, Option.bind_eq_bind, Option.bind_eq_some_iff, Option.pure_def,
    Option.some.injEq,
    Prod.mk.injEq] at h
  obtain ⟨read, first, _, _, _, _, name, _, _⟩ := h
  rw [← name]
  exact scanString_eq first

theorem boyFindInterfaceMutByName_iff {interfaces : List BoyInterfaceEntry} {name : CString}
    {i : Nat} :
    boyFindInterfaceMutByName interfaces name = some i ↔
      (∃ entry, interfaces[i]? = some entry ∧ entry.interfaceName = name) ∧
        ∀ j < i, ∀ entry, interfaces[j]? = some entry → entry.interfaceName ≠ name := by
  rw [boyFindInterfaceMutByName, List.findIdx?_eq_some_iff_getElem]
  constructor
  · rintro ⟨inside, here, before⟩
    refine ⟨⟨_, List.getElem?_eq_getElem inside, by simpa using here⟩, ?_⟩
    intro j earlier entry there
    have other := before j earlier
    rw [List.getElem?_eq_getElem (Nat.lt_trans earlier inside)] at there
    rw [← Option.some.inj there]
    simpa using other
  · rintro ⟨⟨entry, there, named⟩, before⟩
    obtain ⟨inside, rfl⟩ := List.getElem?_eq_some_iff.1 there
    refine ⟨inside, by simpa using named, fun j earlier => ?_⟩
    simpa using before j earlier _ (List.getElem?_eq_getElem (Nat.lt_trans earlier inside))

theorem headerInterface_iff {interfaces : List BoyInterfaceEntry} {line : CString} {i : Nat} :
    headerInterface interfaces line = some i ↔ Resolves interfaces line i := by
  unfold headerInterface
  cases scanned : scanHeader line with
  | none =>
    constructor
    · intro h
      cases h
    · intro h
      have complete := h.complete
      rw [scanned] at complete
      cases complete
  | some parts =>
    obtain ⟨ifName, idx, link⟩ := parts
    obtain rfl := ifName_of_scanHeader scanned
    have complete : (scanHeader line).isSome = true := by rw [scanned]; rfl
    dsimp only
    constructor
    · intro h
      split at h
      · rename_i i' found
        split at h
        · rename_i physical
          obtain rfl := Option.some.inj h
          obtain ⟨⟨entry, there, named⟩, before⟩ := boyFindInterfaceMutByName_iff.1 found
          rw [there] at physical
          exact ⟨complete, ⟨entry, there, named, physical⟩, before⟩
        · cases h
      · cases h
    · rintro ⟨_, ⟨entry, there, named, physical⟩, before⟩
      rw [boyFindInterfaceMutByName_iff.2 ⟨⟨entry, there, named⟩, before⟩]
      simp [there, physical]

/-! ## One line more -/

/-- The last of the lines names an Ethernet address. -/
def EndsInAddress (lines : List CString) : Prop :=
  ∃ before, lines.getLast? = some before ∧ NamesAddress before

/-- The entry the lines leave off in. -/
def InSection (interfaces : List BoyInterfaceEntry) (lines : List CString) (i : Nat) : Prop :=
  ∃ header, headerAbove lines lines.length = some header ∧ Resolves interfaces header i

/-- Behind `lines`, `line` tells the family of entry `i`. -/
structure TellsFamily (interfaces : List BoyInterfaceEntry) (lines : List CString) (i : Nat)
    (line : CString) : Prop where
  indented : isHeader line = false
  no_address : ¬ addressPrefix <+: ltrim line
  no_carrier : ¬ carrierPrefix <+: ltrim line
  no_colon : ':' ∉ line
  below_address : EndsInAddress lines
  in_section : InSection interfaces lines i

theorem headerAbove_append {lines : List CString} (line : CString) {k : Nat}
    (inside : k ≤ lines.length) :
    headerAbove (lines ++ [line]) k = headerAbove lines k := by
  rw [headerAbove, headerAbove, List.take_append_of_le_length inside]

theorem headerAbove_concat (lines : List CString) (line : CString) :
    headerAbove (lines ++ [line]) (lines ++ [line]).length =
      if isHeader line then some line else headerAbove lines lines.length := by
  simp only [headerAbove, List.take_length, List.reverse_append, List.reverse_singleton,
    List.singleton_append,
    List.find?_cons]
  cases isHeader line <;> rfl

theorem familyLine_concat_iff {interfaces : List BoyInterfaceEntry} {lines : List CString}
    {last line : CString} {i k : Nat} :
    FamilyLine interfaces (lines ++ [last]) i k line ↔
      FamilyLine interfaces lines i k line ∨
        k + 1 = lines.length ∧ line = last ∧ TellsFamily interfaces lines i last := by
  have old {j : Nat} (inside : j < lines.length) : (lines ++ [last])[j]? = lines[j]? :=
    List.getElem?_append_left inside
  have last_line (end_ : k + 1 = lines.length) : lines.getLast? = lines[k]? := by
    rw [List.getLast?_eq_getElem?, ← end_, Nat.add_sub_cancel]
  constructor
  · rintro ⟨here, indented, no_address, no_carrier, no_colon, below, above⟩
    have inside := (List.getElem?_eq_some_iff.1 here).1
    rw [List.length_append, List.length_singleton] at inside
    rw [old (by omega)] at below
    rw [headerAbove_append last (by omega)] at above
    rcases Nat.lt_or_ge (k + 1) lines.length with within | end_
    · rw [old within] at here
      exact .inl ⟨here, indented, no_address, no_carrier, no_colon, below, above⟩
    · have end_ : k + 1 = lines.length := by omega
      rw [end_, List.getElem?_concat_length, Option.some.injEq] at here
      subst here
      rw [← last_line end_] at below
      rw [end_] at above
      exact .inr ⟨end_, rfl, indented, no_address, no_carrier, no_colon, below, above⟩
  · rintro (⟨here, indented, no_address, no_carrier, no_colon, below, above⟩ | ⟨end_, rfl, tells⟩)
    · have inside := (List.getElem?_eq_some_iff.1 here).1
      refine ⟨(old inside).trans here, indented, no_address, no_carrier, no_colon, ?_, ?_⟩
      · rwa [old (by omega)]
      · rwa [headerAbove_append last (by omega)]
    · obtain ⟨indented, no_address, no_carrier, no_colon, below, above⟩ := tells
      refine ⟨?_, indented, no_address, no_carrier, no_colon, ?_, ?_⟩
      · rw [end_, List.getElem?_concat_length]
      · rw [old (by omega), ← last_line end_]
        exact below
      · rw [end_, headerAbove_append _ (Nat.le_refl _)]
        exact above

/-- A line that tells a family is the last that does. -/
theorem isFamily_concat {interfaces : List BoyInterfaceEntry} {lines : List CString}
    (last : CString) {i : Nat}
    {old family : CString} (before : IsFamily interfaces lines i old family) :
    IsFamily interfaces (lines ++ [last]) i old family ∧ ¬ TellsFamily interfaces lines i last ∨
      IsFamily interfaces (lines ++ [last]) i old ((ltrim last).take 64) ∧
        TellsFamily interfaces lines i last := by
  by_cases tells : TellsFamily interfaces lines i last
  · refine .inr ⟨.inl ⟨lines.length - 1, last, ?_, ?_, rfl⟩, tells⟩
    · obtain ⟨before, last_line, _⟩ := tells.below_address
      have some_lines : lines ≠ [] := List.getLast?_isSome.1 (by rw [last_line]; rfl)
      have positive := List.length_pos_iff.2 some_lines
      exact familyLine_concat_iff.2 (.inr ⟨by omega, rfl, tells⟩)
    · intro k' line' h
      rcases familyLine_concat_iff.1 h with h | ⟨end_, _⟩
      · have inside := (List.getElem?_eq_some_iff.1 h.here).1
        omega
      · omega
  · refine .inl ⟨?_, tells⟩
    have same {k : Nat} {line : CString} : FamilyLine interfaces (lines ++ [last]) i k line ↔
        FamilyLine interfaces lines i k line := by
      rw [familyLine_concat_iff]
      exact or_iff_left fun ⟨_, _, h⟩ => tells h
    simpa only [IsFamily, same] using before

/-- Behind an indented line the loop is still where it was. -/
theorem inSection_concat {interfaces : List BoyInterfaceEntry} {lines : List CString}
    {line : CString} (indented : isHeader line = false) (i : Nat) :
    InSection interfaces (lines ++ [line]) i ↔ InSection interfaces lines i := by
  rw [InSection, headerAbove_concat, indented]
  rfl

theorem endsInAddress_concat {lines : List CString} {line : CString}
    (indented : isHeader line = false) :
    EndsInAddress (lines ++ [line]) ↔ addressPrefix <+: ltrim line := by
  simp [EndsInAddress, NamesAddress, indented]

theorem mem_ltrim_iff {c : Char} (solid : isBlank c = false) (line : CString) :
    c ∈ ltrim line ↔ c ∈ line := by
  have parts := List.takeWhile_append_dropWhile (p := isBlank) (l := line)
  constructor
  · exact fun there => (List.dropWhile_sublist _).subset there
  · intro there
    rw [← parts, List.mem_append] at there
    rcases there with skipped | left
    · have blank := List.mem_takeWhile_imp skipped
      rw [solid] at blank
      cases blank
    · exact left

/-! ## The state of the loop -/

/-- What the loop knows behind these lines. -/
structure Scanned (interfaces : List BoyInterfaceEntry) (lines : List CString)
    (s : CardFamilyScan) : Prop where
  count : s.interfaces.length = interfaces.length
  families : ∀ (i : Nat) entry, interfaces[i]? = some entry → ∃ family,
    s.interfaces[i]? = some { entry with cardFamily := family } ∧
      IsFamily interfaces lines i entry.cardFamily family
  current : ∀ i, s.current = some i ↔ InSection interfaces lines i
  expectFamily : s.expectFamily = true ↔ s.current.isSome = true ∧ EndsInAddress lines

theorem scanned_start (interfaces : List BoyInterfaceEntry) :
    Scanned interfaces [] ⟨interfaces, none, false⟩ where
  count := rfl
  families i entry there :=
    ⟨entry.cardFamily, there, .inr ⟨fun k line h => by simpa using h.here, rfl⟩⟩
  current i := by simp [InSection, headerAbove]
  expectFamily := by simp

section Step
variable {interfaces : List BoyInterfaceEntry} {lines : List CString} {s : CardFamilyScan}
  (h : Scanned interfaces lines s)
include h

/-- The entries keep what a header is compared with. -/
theorem Scanned.resolves_iff {line : CString} {i : Nat} :
    Resolves s.interfaces line i ↔ Resolves interfaces line i := by
  have forth (j : Nat) (entry : BoyInterfaceEntry) (there : interfaces[j]? = some entry) :
      ∃ family, s.interfaces[j]? = some { entry with cardFamily := family } := by
    obtain ⟨family, same, _⟩ := h.families j entry there
    exact ⟨family, same⟩
  have back (j : Nat) (entry' : BoyInterfaceEntry) (there : s.interfaces[j]? = some entry') :
      ∃ entry family, interfaces[j]? = some entry ∧
        entry' = { entry with cardFamily := family } := by
    have inside := (List.getElem?_eq_some_iff.1 there).1
    rw [h.count] at inside
    obtain ⟨family, same⟩ := forth j _ (List.getElem?_eq_getElem inside)
    rw [there] at same
    exact ⟨_, family, List.getElem?_eq_getElem inside, Option.some.inj same⟩
  constructor
  · rintro ⟨complete, ⟨entry', there, named, physical⟩, first⟩
    obtain ⟨entry, family, there', rfl⟩ := back i entry' there
    refine ⟨complete, ⟨entry, there', named, physical⟩, fun j earlier entry there => ?_⟩
    obtain ⟨family, same⟩ := forth j entry there
    have other := first j earlier _ same
    exact other
  · rintro ⟨complete, ⟨entry, there, named, physical⟩, first⟩
    obtain ⟨family, same⟩ := forth i entry there
    refine ⟨complete, ⟨_, same, named, physical⟩, fun j earlier entry' there => ?_⟩
    obtain ⟨entry, family, there', rfl⟩ := back j entry' there
    exact first j earlier entry there'

theorem Scanned.families_kept {line : CString} (silent : ∀ i, ¬ TellsFamily interfaces lines i line)
    (i : Nat) (entry : BoyInterfaceEntry) (there : interfaces[i]? = some entry) : ∃ family,
      s.interfaces[i]? = some { entry with cardFamily := family } ∧
        IsFamily interfaces (lines ++ [line]) i entry.cardFamily family := by
  obtain ⟨family, same, told⟩ := h.families i entry there
  rcases isFamily_concat line told with ⟨told', _⟩ | ⟨_, tells⟩
  · exact ⟨family, same, told'⟩
  · exact absurd tells (silent i)

theorem Scanned.step_header {line : CString} (header : isHeader line = true) :
    Scanned interfaces (lines ++ [line]) (s.step line) := by
  have moved : s.step line =
      { s with current := headerInterface s.interfaces line, expectFamily := false } :=
        if_pos header
  have silent (i : Nat) : ¬ TellsFamily interfaces lines i line := by
    intro tells
    have indented := tells.indented
    rw [header] at indented
    cases indented
  rw [moved]
  refine ⟨h.count, h.families_kept silent, fun i => ?_, ?_⟩
  · rw [headerInterface_iff, h.resolves_iff, InSection, headerAbove_concat, if_pos header]
    simp
  · simp [EndsInAddress, NamesAddress, header]

/-- An indented line that tells nothing changes at most what is expected. -/
theorem Scanned.step_silent {line : CString} {s' : CardFamilyScan}
    (indented : isHeader line = false)
    (silent : ∀ i, ¬ TellsFamily interfaces lines i line) (same : s'.interfaces = s.interfaces)
    (stays : s'.current = s.current)
    (expects : s'.expectFamily = true ↔ s.current.isSome = true ∧ addressPrefix <+: ltrim line) :
    Scanned interfaces (lines ++ [line]) s' where
  count := by rw [same, h.count]
  families := by
    rw [same]
    exact h.families_kept silent
  current i := by rw [stays, inSection_concat indented, h.current]
  expectFamily := by rw [stays, endsInAddress_concat indented, expects]

/-- The line behind an Ethernet address. -/
theorem Scanned.step_family {line : CString} {i : Nat} (indented : isHeader line = false)
    (here : s.current = some i)
    (expected : s.expectFamily = true) (no_address : ¬ addressPrefix <+: ltrim line)
    (no_carrier : ¬ carrierPrefix <+: ltrim line) (no_colon : ':' ∉ line) :
    Scanned interfaces (lines ++ [line])
      ⟨setCardFamily s.interfaces i (ltrim line), some i, false⟩ := by
  have tells_iff (j : Nat) : TellsFamily interfaces lines j line ↔ i = j := by
    rw [← Option.some.injEq, ← here, h.current]
    constructor
    · exact fun tells => tells.in_section
    · exact fun inside =>
        ⟨indented, no_address, no_carrier, no_colon, (h.expectFamily.1 expected).2, inside⟩
  refine ⟨by simpa [setCardFamily] using h.count, fun j entry there => ?_, fun j => ?_, ?_⟩
  · obtain ⟨old, same, told⟩ := h.families j entry there
    rcases isFamily_concat line told with ⟨told', other⟩ | ⟨told', own⟩
    · rw [tells_iff] at other
      refine ⟨old, ?_, told'⟩
      simp [setCardFamily, other, same]
    · rw [tells_iff] at own
      refine ⟨(ltrim line).take 64, ?_, told'⟩
      simp [setCardFamily, own, same, snprintf]
  · rw [inSection_concat indented, ← h.current, here]
  · rw [endsInAddress_concat indented]
    simp [no_address]

theorem Scanned.step_indented {line : CString} (indented : isHeader line = false) :
    Scanned interfaces (lines ++ [line]) (s.step line) := by
  have not_header : ¬ isHeader line = true := by simp [indented]
  have colon := mem_ltrim_iff (c := ':') rfl line
  unfold CardFamilyScan.step
  rw [if_neg not_header]
  cases here : s.current with
  | none =>
    have unexpected := h.expectFamily
    simp only [here, Option.isSome_none, Bool.false_eq_true, false_and, iff_false] at unexpected
    refine h.step_silent indented (fun i tells => ?_) rfl rfl (by simp [here, unexpected])
    rw [(h.current i).2 tells.in_section] at here
    cases here
  | some i =>
    dsimp only
    split
    · rename_i address
      exact h.step_silent indented (fun j tells => tells.no_address address) rfl here.symm
        (by simp [here, address])
    · rename_i no_address
      split
      · rename_i no_family
        refine h.step_silent indented (fun j tells => no_family ?_) rfl rfl
          (by simp [no_family, no_address])
        rw [h.expectFamily, here]
        exact ⟨rfl, tells.below_address⟩
      · rename_i expected
        rw [not_not] at expected
        split
        · rename_i other
          refine h.step_silent indented (fun j tells => ?_) rfl here.symm (by simp [no_address])
          rcases other with inside | carrier
          · exact tells.no_colon (colon.1 inside)
          · exact tells.no_carrier carrier
        · rename_i family
          rw [not_or, colon] at family
          exact h.step_family indented here expected no_address family.2 family.1

end Step

theorem scanned_lines (interfaces : List BoyInterfaceEntry) (lines : List CString) :
    Scanned interfaces lines (lines.foldl CardFamilyScan.step ⟨interfaces, none, false⟩) := by
  induction lines using List.reverseRecOn with
  | nil => exact scanned_start interfaces
  | append_singleton lines line ih =>
    rw [List.foldl_append]
    cases indented : isHeader line with
    | true => exact ih.step_header indented
    | false => exact ih.step_indented indented

/-! ## The whole text -/

/-- The table behind the loop. -/
def withFamilies (interfaces : List BoyInterfaceEntry) (text : CString) : List BoyInterfaceEntry :=
  ((outputLines text).foldl CardFamilyScan.step ⟨interfaces, none, false⟩).interfaces

/-- With or without memory for its copy of the text. -/
theorem follows_override_any_iff {interfaces interfaces' : List BoyInterfaceEntry} {text : CString}
    {tr : List BoyEvent} :
    Follows (boyOverrideCardFamilyFromCliOutput interfaces (some text)) tr interfaces' ↔
      text = [] ∧ tr = [] ∧ interfaces' = interfaces ∨
        text ≠ [] ∧ ∃ granted : Bool, tr = [⟨.malloc (text.length + 1), granted⟩] ∧
          interfaces' = if granted then withFamilies interfaces text else interfaces := by
  unfold boyOverrideCardFamilyFromCliOutput
  dsimp only
  split
  · rename_i empty
    simp [empty, follows_done_iff]
  · rename_i some_text
    simp only [some_text, false_and, false_or, ne_eq, not_false_eq_true, true_and]
    rw [foldl_readLine, ← withFamilies]
    constructor
    · intro run
      obtain ⟨granted, t, rfl, ending⟩ := follows_call_bind run
      refine ⟨granted, ?_⟩
      split at ending
      · rename_i enough
        obtain ⟨rfl, rfl⟩ := follows_done_iff.1 ending
        exact ⟨rfl, (if_pos enough).symm⟩
      · rename_i refused
        obtain ⟨rfl, rfl⟩ := follows_done_iff.1 ending
        exact ⟨rfl, (if_neg refused).symm⟩
    · rintro ⟨granted, rfl, rfl⟩
      refine .call ?_
      cases granted with
      | true => exact .done _
      | false => exact .done _

theorem follows_override_iff {interfaces interfaces' : List BoyInterfaceEntry} {text : CString}
    {tr : List BoyEvent} :
    Follows (boyOverrideCardFamilyFromCliOutput interfaces (some text)) tr interfaces' ∧
        (∀ e ∈ tr, Acknowledged e) ↔
      tr = (if text = [] then [] else [⟨.malloc (text.length + 1), true⟩]) ∧
        interfaces' = withFamilies interfaces text := by
  rw [follows_override_any_iff]
  by_cases empty : text = []
  · subst empty
    have nothing : withFamilies interfaces [] = interfaces := rfl
    simp only [nothing, true_and, ne_eq, not_true_eq_false, false_and, or_false, ↓reduceIte]
    constructor
    · exact fun h => h.1
    · rintro ⟨rfl, rfl⟩
      exact ⟨⟨rfl, rfl⟩, by simp⟩
  · simp only [empty, false_and, ne_eq, not_false_eq_true, true_and, false_or, ↓reduceIte]
    constructor
    · rintro ⟨⟨granted, rfl, rfl⟩, good⟩
      have enough : granted = true := good _ List.mem_cons_self
      rw [enough]
      exact ⟨rfl, rfl⟩
    · rintro ⟨rfl, rfl⟩
      refine ⟨⟨true, rfl, rfl⟩, fun e he => ?_⟩
      obtain rfl := List.mem_singleton.1 he
      rfl

/-- **The families VPP's output tells.** With memory for its copy of the text,
the function gives every entry the family that the last line about it tells, and
changes nothing else. -/
theorem card_families_told (interfaces : List BoyInterfaceEntry) (text : CString) :
    (∃ tr interfaces',
      Follows (boyOverrideCardFamilyFromCliOutput interfaces (some text)) tr interfaces' ∧
      ∀ e ∈ tr, Acknowledged e) ∧
    ∀ tr interfaces',
      Follows (boyOverrideCardFamilyFromCliOutput interfaces (some text)) tr interfaces' →
      (∀ e ∈ tr, Acknowledged e) →
        interfaces'.length = interfaces.length ∧
        ∀ (i : Nat) entry, interfaces[i]? = some entry → ∃ family,
          interfaces'[i]? = some { entry with cardFamily := family } ∧
          IsFamily interfaces (outputLines text) i entry.cardFamily family ∧
          (boyIsPhysicalInterface entry = false → family = entry.cardFamily) := by
  have told := scanned_lines interfaces (outputLines text)
  refine ⟨⟨_, _, follows_override_iff.2 ⟨rfl, rfl⟩⟩, fun tr interfaces' run good => ?_⟩
  obtain ⟨_, rfl⟩ := follows_override_iff.1 ⟨run, good⟩
  refine ⟨told.count, fun i entry there => ?_⟩
  obtain ⟨family, same, is_family⟩ := told.families i entry there
  refine ⟨family, same, is_family, fun other => ?_⟩
  rcases is_family with ⟨k, line, h, _⟩ | ⟨_, kept⟩
  · obtain ⟨_, _, _, ⟨entry', there', _, physical⟩, _⟩ := h.in_section
    rw [there, Option.some.injEq] at there'
    rw [there', physical] at other
    cases other
  · exact kept

example : (withFamilies
    [interfaceEntry ⟨1, .hardware, 0, 0, .of "Ethernet0".toList, .of "dpdk".toList,
      Vector.replicate 6 0⟩]
    "Ethernet0   1  down  Ethernet0\n  Ethernet address 00:0d\n  Intel e1000  \n    carrier down".toList).map
      (·.cardFamily) = ["Intel e1000".toList] := by decide

/-- `%64s` reads no more than 64 bytes, and `%u` may go on right behind them. -/
def longHeader : CString := List.replicate 64 'a' ++ "1 1 up".toList

def longNamed : BoyInterfaceEntry :=
  interfaceEntry ⟨1, .hardware, 0, 0, .of (List.replicate 64 'a'), .of "dpdk".toList,
    Vector.replicate 6 0⟩

def longText : CString := longHeader ++ "\n Ethernet address 0\n Intel".toList

theorem long_token_cut : ∃ interfaces text tr interfaces',
    Follows (boyOverrideCardFamilyFromCliOutput interfaces (some text)) tr interfaces' ∧
      (∀ e ∈ tr, Acknowledged e) ∧
      (∀ line ∈ outputLines text, isHeader line = true → ∀ entry ∈ interfaces,
        entry.interfaceName ≠ firstToken line) ∧
      interfaces' ≠ interfaces := by
  obtain ⟨tr, interfaces', rfl, run, good⟩ : ∃ tr interfaces',
      interfaces' = withFamilies [longNamed] longText ∧
        Follows (boyOverrideCardFamilyFromCliOutput [longNamed] (some longText)) tr interfaces' ∧
        ∀ e ∈ tr, Acknowledged e := ⟨_, _, rfl, follows_override_iff.2 ⟨rfl, rfl⟩⟩
  exact ⟨_, _, _, _, run, good, by decide, by decide⟩

end BeastieBoy
