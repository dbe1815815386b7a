import BeastieBoy.CardFamily

/-!
# Section by section

A header makes the parser forget all but the table, and in the table it looks at
nothing that it writes. So the sections of a text are read one by one, in any
order, and as often as one likes.
-/

namespace BeastieBoy

open CLib Interact Interact.Prog

/-! ## One text behind another -/

theorem outputLines_append (a b : CString) :
    outputLines (a ++ '\n' :: b) = outputLines a ++ outputLines b := by
  rw [outputLines, List.splitOn_append_cons_self, List.map_append, List.filter_append]
  rfl

/-- The first line that is not blank is not indented. -/
def StartsSection (text : CString) : Prop :=
  ∀ line, (outputLines text).head? = some line → isHeader line = true

theorem step_header {line : CString} (header : isHeader line = true) (s : CardFamilyScan) :
    s.step line = CardFamilyScan.step ⟨s.interfaces, none, false⟩ line := by
  simp [CardFamilyScan.step, header]

theorem withFamilies_append (interfaces : List BoyInterfaceEntry) (a : CString) {b : CString}
    (starts : StartsSection b) :
    withFamilies interfaces (a ++ '\n' :: b) = withFamilies (withFamilies interfaces a) b := by
  unfold withFamilies
  rw [outputLines_append, List.foldl_append]
  cases lines : outputLines b with
  | nil => rfl
  | cons header rest =>
    have first : isHeader header = true := starts header (by rw [lines]; rfl)
    rw [List.foldl_cons, List.foldl_cons, step_header first]

/-! ## Entry by entry -/

theorem isFamily_unique {interfaces : List BoyInterfaceEntry} {lines : List CString} {i : Nat}
    {old family family' : CString} (h : IsFamily interfaces lines i old family)
    (h' : IsFamily interfaces lines i old family') : family = family' := by
  rcases h with ⟨k, line, told, last, rfl⟩ | ⟨silent, rfl⟩
  · rcases h' with ⟨k', line', told', last', rfl⟩ | ⟨silent', _⟩
    · obtain rfl : k = k' := Nat.le_antisymm (last' k line told) (last k' line' told')
      obtain rfl := Option.some.inj (told.here.symm.trans told'.here)
      rfl
    · exact absurd told (silent' k line)
  · rcases h' with ⟨k', line', told', _⟩ | ⟨_, rfl⟩
    · exact absurd told' (silent k' line')
    · rfl

/-- What a text tells a second time is no news. -/
theorem isFamily_again {interfaces : List BoyInterfaceEntry} {lines : List CString} {i : Nat}
    {old family family' : CString} (h : IsFamily interfaces lines i old family)
    (h' : IsFamily interfaces lines i family family') : family' = family := by
  rcases h with ⟨k, line, told, last, rfl⟩ | ⟨silent, rfl⟩
  · exact isFamily_unique h' (.inl ⟨k, line, told, last, rfl⟩)
  · exact isFamily_unique h' (.inr ⟨silent, rfl⟩)

section Table
variable (interfaces : List BoyInterfaceEntry) (text : CString)

theorem withFamilies_length : (withFamilies interfaces text).length = interfaces.length :=
  (scanned_lines interfaces (outputLines text)).count

/-- The families that are written are not what a header is compared with. -/
theorem withFamilies_resolves (line : CString) (i : Nat) :
    Resolves (withFamilies interfaces text) line i ↔ Resolves interfaces line i :=
  (scanned_lines interfaces (outputLines text)).resolves_iff

theorem withFamilies_familyLine (lines : List CString) (i k : Nat) (line : CString) :
    FamilyLine (withFamilies interfaces text) lines i k line ↔
      FamilyLine interfaces lines i k line := by
  constructor
  · rintro ⟨here, indented, no_address, no_carrier, no_colon, below, header, above, resolves⟩
    exact ⟨here, indented, no_address, no_carrier, no_colon, below, header, above,
      (withFamilies_resolves interfaces text header i).1 resolves⟩
  · rintro ⟨here, indented, no_address, no_carrier, no_colon, below, header, above, resolves⟩
    exact ⟨here, indented, no_address, no_carrier, no_colon, below, header, above,
      (withFamilies_resolves interfaces text header i).2 resolves⟩

theorem withFamilies_isFamily (lines : List CString) (i : Nat) (old family : CString) :
    IsFamily (withFamilies interfaces text) lines i old family ↔
      IsFamily interfaces lines i old family := by
  simp only [IsFamily, withFamilies_familyLine]

variable {interfaces}

theorem withFamilies_at {i : Nat} {entry : BoyInterfaceEntry}
    (there : interfaces[i]? = some entry) :
    ∃ family, (withFamilies interfaces text)[i]? = some { entry with cardFamily := family } ∧
      IsFamily interfaces (outputLines text) i entry.cardFamily family :=
  (scanned_lines interfaces (outputLines text)).families i entry there

/-- Two tables with the entries of `interfaces`, and the same families. -/
theorem eq_of_families {A B : List BoyInterfaceEntry} (countA : A.length = interfaces.length)
    (countB : B.length = interfaces.length)
    (same : ∀ (i : Nat) entry, interfaces[i]? = some entry → A[i]? = B[i]?) : A = B := by
  apply List.ext_getElem?
  intro i
  rcases Nat.lt_or_ge i interfaces.length with inside | outside
  · exact same i _ (List.getElem?_eq_getElem inside)
  · rw [List.getElem?_eq_none (countA ▸ outside), List.getElem?_eq_none (countB ▸ outside)]

end Table

theorem withFamilies_twice (interfaces : List BoyInterfaceEntry) (text : CString) :
    withFamilies (withFamilies interfaces text) text = withFamilies interfaces text := by
  have count := withFamilies_length interfaces text
  apply eq_of_families ((withFamilies_length _ text).trans count) count
  intro i entry there
  obtain ⟨family, once, told⟩ := withFamilies_at text there
  obtain ⟨family', twice, again⟩ := withFamilies_at text once
  rw [withFamilies_isFamily] at again
  rw [once, twice, isFamily_again told again]

/-! ## Sections -/

/-- A text of one header and indented lines, blank lines aside. -/
structure OutputSection where
  text : CString
  header : CString
  body : List CString
  lines : outputLines text = header :: body
  first : isHeader header = true
  indented : ∀ line ∈ body, isHeader line = false

namespace OutputSection
variable {interfaces : List BoyInterfaceEntry} (x y : OutputSection)

theorem starts : StartsSection x.text := by
  intro line first
  rw [x.lines] at first
  obtain rfl := Option.some.inj first
  exact x.first

/-- The headers of the two do not lead to the same entry. -/
def Apart (interfaces : List BoyInterfaceEntry) (x y : OutputSection) : Prop :=
  ∀ i, ¬ (Resolves interfaces x.header i ∧ Resolves interfaces y.header i)

theorem headerAbove_eq {k : Nat} {line : CString}
    (above : headerAbove (outputLines x.text) k = some line) :
    line = x.header := by
  have header : isHeader line = true := by simpa using List.find?_some above
  have there : line ∈ outputLines x.text :=
    List.mem_of_mem_take (List.mem_reverse.1 (List.mem_of_find?_eq_some above))
  rw [x.lines] at there
  rcases List.mem_cons.1 there with rfl | inside
  · rfl
  · rw [x.indented line inside] at header
    cases header

/-- A section says nothing of entries its header does not lead to. -/
theorem kept {i : Nat} {entry : BoyInterfaceEntry} (there : interfaces[i]? = some entry)
    (elsewhere : ¬ Resolves interfaces x.header i) :
    (withFamilies interfaces x.text)[i]? = some entry := by
  obtain ⟨family, now, told⟩ := withFamilies_at x.text there
  rcases told with ⟨k, line, told, _⟩ | ⟨_, rfl⟩
  · obtain ⟨header, above, resolves⟩ := told.in_section
    rw [x.headerAbove_eq above] at resolves
    exact absurd resolves elsewhere
  · exact now

/-- An entry that only one of two sections is about. -/
theorem commute_at {i : Nat} {entry : BoyInterfaceEntry} (there : interfaces[i]? = some entry)
    (elsewhere : ¬ Resolves interfaces y.header i) :
    (withFamilies (withFamilies interfaces x.text) y.text)[i]? =
      (withFamilies (withFamilies interfaces y.text) x.text)[i]? := by
  obtain ⟨family, now, told⟩ := withFamilies_at x.text there
  have still := y.kept now (by rwa [withFamilies_resolves])
  obtain ⟨family', now', told'⟩ := withFamilies_at x.text (y.kept there elsewhere)
  rw [withFamilies_isFamily] at told'
  rw [still, now', isFamily_unique told told']

theorem commute (apart : Apart interfaces x y) :
    withFamilies (withFamilies interfaces x.text) y.text =
      withFamilies (withFamilies interfaces y.text) x.text := by
  have count (u v : OutputSection) : (withFamilies (withFamilies interfaces u.text) v.text).length =
      interfaces.length := (withFamilies_length _ _).trans (withFamilies_length _ _)
  apply eq_of_families (count x y) (count y x)
  intro i entry there
  by_cases own : Resolves interfaces x.header i
  · exact x.commute_at y there fun other => apart i ⟨own, other⟩
  · exact (y.commute_at x there own).symm

/-- The sections, each on lines of its own. -/
def joined (sections : List OutputSection) : CString :=
  List.intercalate ['\n'] (sections.map OutputSection.text)

def readAll (interfaces : List BoyInterfaceEntry) (sections : List OutputSection) :
    List BoyInterfaceEntry :=
  sections.foldl (fun now x => withFamilies now x.text) interfaces

theorem joined_cons_cons (sections : List OutputSection) :
    joined (x :: y :: sections) = x.text ++ '\n' :: joined (y :: sections) := by
  simp only [joined, List.map_cons, List.intercalate_cons_cons, List.append_assoc,
    List.singleton_append]

theorem starts_joined (sections : List OutputSection) : StartsSection (joined (x :: sections)) := by
  cases sections with
  | nil =>
    rw [joined, List.map_singleton, List.intercalate_singleton]
    exact x.starts
  | cons y rest =>
    intro line first
    rw [joined_cons_cons, outputLines_append, x.lines] at first
    obtain rfl := Option.some.inj first
    exact x.first

theorem withFamilies_joined (interfaces : List BoyInterfaceEntry) (sections : List OutputSection) :
    withFamilies interfaces (joined sections) = readAll interfaces sections := by
  induction sections generalizing interfaces with
  | nil => rfl
  | cons x rest ih =>
    cases rest with
    | nil =>
      rw [joined, List.map_singleton, List.intercalate_singleton]
      rfl
    | cons y rest =>
      rw [joined_cons_cons, withFamilies_append _ _ (starts_joined y rest), ih]
      rfl

theorem apart_withFamilies (text : CString) :
    Apart (withFamilies interfaces text) x y ↔ Apart interfaces x y := by
  simp only [Apart, withFamilies_resolves]

theorem apart_symm {x y : OutputSection} (apart : Apart interfaces x y) : Apart interfaces y x :=
  fun i both => apart i ⟨both.2, both.1⟩

theorem readAll_perm {sections sections' : List OutputSection} (perm : sections.Perm sections')
    (apart : sections.Pairwise (Apart interfaces)) :
    readAll interfaces sections = readAll interfaces sections' := by
  induction perm generalizing interfaces with
  | nil => rfl
  | cons x _ ih =>
    apply ih
    apply (List.pairwise_cons.1 apart).2.imp
    intro u v h
    rwa [apart_withFamilies]
  | swap x y rest =>
    have swapped := y.commute x ((List.pairwise_cons.1 apart).1 x List.mem_cons_self)
    simp only [readAll, List.foldl_cons, swapped]
  | trans first second ih ih' =>
    rw [ih apart, ih' ((first.pairwise_iff apart_symm).1 apart)]

end OutputSection

/-! ## What the function does -/

/-- The function on these texts, one after the other, may end with `interfaces'`.
`granted` says whether there is memory for its copies. -/
def Overrides (granted : Bool) (interfaces : List BoyInterfaceEntry) (texts : List CString)
    (interfaces' : List BoyInterfaceEntry) : Prop :=
  ∃ tr, Follows (texts.foldlM (fun now text => boyOverrideCardFamilyFromCliOutput now (some text))
    interfaces) tr
      interfaces' ∧
    ∀ e ∈ tr, ∃ size, e = ⟨.malloc size, granted⟩

theorem override_once_iff {granted : Bool} {interfaces interfaces' : List BoyInterfaceEntry}
    {text : CString} :
    (∃ tr, Follows (boyOverrideCardFamilyFromCliOutput interfaces (some text)) tr interfaces' ∧
        ∀ e ∈ tr, ∃ size, e = ⟨.malloc size, granted⟩) ↔
      interfaces' = if granted then withFamilies interfaces text else interfaces := by
  simp only [follows_override_any_iff]
  constructor
  · rintro ⟨tr, ⟨rfl, rfl, rfl⟩ | ⟨_, enough, rfl, rfl⟩, all⟩
    · cases granted <;> rfl
    · obtain ⟨size, same⟩ := all _ List.mem_cons_self
      cases same
      rfl
  · rintro rfl
    by_cases empty : text = []
    · subst empty
      exact ⟨[], .inl ⟨rfl, rfl, by cases granted <;> rfl⟩, by simp⟩
    · exact ⟨_, .inr ⟨empty, granted, rfl, rfl⟩, by simp⟩

theorem overrides_iff {granted : Bool} {interfaces interfaces' : List BoyInterfaceEntry}
    {texts : List CString} :
    Overrides granted interfaces texts interfaces' ↔
      interfaces' = if granted then texts.foldl withFamilies interfaces else interfaces := by
  induction texts generalizing interfaces with
  | nil =>
    rw [Overrides, List.foldlM_nil, List.foldl_nil, ite_self]
    constructor
    · rintro ⟨tr, run, _⟩
      exact (follows_done_iff.1 run).2
    · rintro rfl
      exact ⟨[], .done _, by simp⟩
  | cons text texts ih =>
    have split_up : Overrides granted interfaces (text :: texts) interfaces' ↔
        ∃ now, now = (if granted then withFamilies interfaces text else interfaces) ∧
          Overrides granted now texts interfaces' := by
      simp only [← override_once_iff, Overrides, List.foldlM_cons, follows_bind_iff]
      constructor
      · rintro ⟨tr, ⟨t₁, now, t₂, rfl, first, rest⟩, all⟩
        rw [List.forall_mem_append] at all
        exact ⟨now, ⟨t₁, first, all.1⟩, t₂, rest, all.2⟩
      · rintro ⟨now, ⟨t₁, first, all⟩, t₂, rest, all'⟩
        exact ⟨t₁ ++ t₂, ⟨t₁, now, t₂, rfl, first, rest⟩, List.forall_mem_append.2 ⟨all, all'⟩⟩
    rw [split_up, exists_eq_left, ih]
    cases granted <;> rfl

/-- **Nothing is remembered from one section to the next.** A text in front of
one that starts with a header may as well be read before it; sections about
different interfaces may stand in any order; and what is read twice is the same
as what is read once. -/
theorem sections_forgotten (granted : Bool) (interfaces : List BoyInterfaceEntry) :
    (∀ texts, ∃! interfaces', Overrides granted interfaces texts interfaces') ∧
    (∀ a b, StartsSection b → ∀ interfaces',
      Overrides granted interfaces [a ++ '\n' :: b] interfaces' ↔
      Overrides granted interfaces [a, b] interfaces') ∧
    (∀ sections sections' : List OutputSection, sections.Perm sections' →
      sections.Pairwise (OutputSection.Apart interfaces) → ∀ interfaces',
        (Overrides granted interfaces [OutputSection.joined sections] interfaces' ↔
          Overrides granted interfaces [OutputSection.joined sections'] interfaces')) ∧
    ∀ a interfaces', Overrides granted interfaces [a, a] interfaces' ↔
      Overrides granted interfaces [a] interfaces' := by
  simp only [overrides_iff, List.foldl_cons, List.foldl_nil]
  refine ⟨?_, ?_, ?_, ?_⟩
  · exact fun texts => ⟨_, rfl, fun _ => id⟩
  · intro a b starts interfaces'
    rw [withFamilies_append interfaces a starts]
  · intro sections sections' perm apart interfaces'
    rw [OutputSection.withFamilies_joined, OutputSection.withFamilies_joined,
      OutputSection.readAll_perm perm apart]
  · intro a interfaces'
    rw [withFamilies_twice]

def intelSection : OutputSection where
  text := "Eth0 1 up Eth0\n  Ethernet address 00:0d\n  Intel e1000\n".toList
  header := "Eth0 1 up Eth0".toList
  body := ["  Ethernet address 00:0d".toList, "  Intel e1000".toList]
  lines := by decide
  first := by decide
  indented := by decide

def mellanoxSection : OutputSection where
  text := "Eth1 2 down Eth1\n  Ethernet address 00:0e\n  Mellanox\n    carrier down".toList
  header := "Eth1 2 down Eth1".toList
  body := ["  Ethernet address 00:0e".toList, "  Mellanox".toList, "    carrier down".toList]
  lines := by decide
  first := by decide
  indented := by decide

def twoPorts : List BoyInterfaceEntry :=
  [interfaceEntry ⟨1, .hardware, 0, 0, .of "Eth0".toList, .of "dpdk".toList, Vector.replicate 6 0⟩,
    interfaceEntry ⟨2, .hardware, 0, 0, .of "Eth1".toList, .of "dpdk".toList, Vector.replicate 6 0⟩]

theorem two_sections_swapped : ∀ interfaces',
    Overrides true twoPorts [OutputSection.joined [intelSection, mellanoxSection]] interfaces' ↔
      Overrides true twoPorts
        [OutputSection.joined [mellanoxSection, intelSection]] interfaces' := by
  have apart : OutputSection.Apart twoPorts intelSection mellanoxSection := by
    rintro i ⟨⟨_, ⟨entry, there, named, _⟩, _⟩, ⟨_, ⟨entry', there', named', _⟩, _⟩⟩
    obtain rfl := Option.some.inj (there.symm.trans there')
    have other : (firstToken intelSection.header).take 64 ≠
        (firstToken mellanoxSection.header).take 64 := by decide
    exact other (named.symm.trans named')
  exact (sections_forgotten true twoPorts).2.2.1 _ _ (.swap _ _ _) (by simpa using apart)

end BeastieBoy
