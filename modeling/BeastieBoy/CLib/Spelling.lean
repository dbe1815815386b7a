import BeastieBoy.CLib.Getopt

/-!
# Command lines as a grammar

`Spells t posixlyCorrect elements given`: the elements are a way to write the
options `given`, none of which is unknown. `getoptLong` reads exactly these
command lines, and reads each as what it spells.
-/

namespace CLib.OptionTable

variable {Flag Operand : Type} {t : OptionTable Flag Operand}

/-- The name of a long option, or the beginning of such names that all mean it. -/
inductive Names (t : OptionTable Flag Operand) (name : CString)
    (value : OptionValue Flag Operand) : Prop
  | whole (own : t.long.lookup name = some value)
  | short (no_name : t.long.lookup name = none) (some_name : ∃ entry ∈ t.long, name <+: entry.1)
      (agree : ∀ entry ∈ t.long, name <+: entry.1 → entry.2 = value)

/-- The letters behind one `-`: flags, and perhaps an operand with its argument,
or one that waits for it. -/
inductive Cluster (t : OptionTable Flag Operand) :
    CString → List (Opt Flag Operand) → Option Operand → Prop
  | nil : Cluster t [] [] none
  | flag {c : Char} {flag : Flag} {rest : CString} {given : List (Opt Flag Operand)}
      {waiting : Option Operand}
      (own : t.short.lookup c = some (.noArgument flag)) (more : Cluster t rest given waiting) :
      Cluster t (c :: rest) (.flag flag :: given) waiting
  | attached {c : Char} {operand : Operand} {optarg : CString}
      (own : t.short.lookup c = some (.requiredArgument operand)) (some_arg : optarg ≠ []) :
      Cluster t (c :: optarg) [.operand operand optarg] none
  | waits {c : Char} {operand : Operand}
      (own : t.short.lookup c = some (.requiredArgument operand)) :
      Cluster t [c] [] (some operand)

/-- One element: the options it spells, and one that waits for its argument. -/
inductive Element (t : OptionTable Flag Operand) : CString → List (Opt Flag Operand) →
    Option Operand → Prop
  | flag {name : CString} {flag : Flag} (some_name : name ≠ []) (plain : '=' ∉ name)
      (names : t.Names name (.noArgument flag)) : Element t ('-' :: '-' :: name) [.flag flag] none
  | attached {name optarg : CString} {operand : Operand} (plain : '=' ∉ name)
      (names : t.Names name (.requiredArgument operand)) :
      Element t ('-' :: '-' :: (name ++ '=' :: optarg)) [.operand operand optarg] none
  | waits {name : CString} {operand : Operand} (some_name : name ≠ []) (plain : '=' ∉ name)
      (names : t.Names name (.requiredArgument operand)) :
        Element t ('-' :: '-' :: name) [] (some operand)
  | cluster {c : Char} {rest : CString} {given : List (Opt Flag Operand)} {waiting : Option Operand}
      (single : c ≠ '-') (letters : t.Cluster (c :: rest) given waiting) :
        Element t ('-' :: c :: rest) given waiting

/-- Not `-` with something behind it. -/
def IsPlain (element : CString) : Prop := ∀ c rest, element ≠ '-' :: c :: rest

inductive Spells (t : OptionTable Flag Operand) (posixlyCorrect : Bool) :
    List CString → List (Opt Flag Operand) → Prop
  | nil : Spells t posixlyCorrect [] []
  | dashes (rest : List CString) : Spells t posixlyCorrect (['-', '-'] :: rest) []
  | stop {element : CString} (plain : IsPlain element) (posix : posixlyCorrect = true)
      (rest : List CString) :
      Spells t posixlyCorrect (element :: rest) []
  | skip {element : CString} {rest : List CString} {given : List (Opt Flag Operand)}
      (plain : IsPlain element)
      (posix : posixlyCorrect = false) (more : Spells t posixlyCorrect rest given) :
      Spells t posixlyCorrect (element :: rest) given
  | one {element : CString} {rest : List CString} {first given : List (Opt Flag Operand)}
      (options : t.Element element first none) (more : Spells t posixlyCorrect rest given) :
      Spells t posixlyCorrect (element :: rest) (first ++ given)
  | two {element optarg : CString} {operand : Operand} {rest : List CString}
      {first given : List (Opt Flag Operand)}
      (options : t.Element element first (some operand))
      (more : Spells t posixlyCorrect rest given) :
      Spells t posixlyCorrect (element :: optarg :: rest)
        (first ++ .operand operand optarg :: given)

/-! ## One element -/

theorem cluster_of_shortElement {s : CString} (known : .unknown ∉ (t.shortElement s).1) :
    t.Cluster s (t.shortElement s).1 (t.shortElement s).2 := by
  induction s with
  | nil => exact .nil
  | cons c rest ih =>
    unfold shortElement at known ⊢
    split at known
    · exact absurd List.mem_cons_self known
    · rename_i flag own
      exact .flag own (ih fun there => known (List.mem_cons_of_mem _ there))
    · rename_i operand own
      split
      · rename_i empty
        rw [empty]
        exact .waits own
      · rename_i some_arg
        exact .attached own some_arg

theorem Cluster.shortElement_eq {s : CString} {given : List (Opt Flag Operand)}
    {waiting : Option Operand}
    (h : t.Cluster s given waiting) : t.shortElement s = (given, waiting) := by
  induction h with
  | nil => rfl
  | flag own _ ih => simp [shortElement, own, ih]
  | attached own some_arg => simp [shortElement, own, some_arg]
  | waits own => simp [shortElement, own]

section
variable [DecidableEq Flag] [DecidableEq Operand]

theorem findLong_eq_some_iff {name : CString} {value : OptionValue Flag Operand} :
    t.findLong name = some value ↔ t.Names name value := by
  unfold findLong
  cases own : t.long.lookup name with
  | some value' =>
    simp only [Option.some.injEq]
    constructor
    · rintro rfl
      exact .whole own
    · rintro (own' | no_name)
      · exact Option.some.inj (own.symm.trans own')
      · rw [own] at no_name
        cases no_name
  | none =>
    have matching (entry : CString × OptionValue Flag Operand) :
        entry ∈ t.long.filter (fun entry => name.isPrefixOf entry.1) ↔
          entry ∈ t.long ∧ name <+: entry.1 := by
      rw [List.mem_filter, List.isPrefixOf_iff_prefix]
    have named : t.Names name value ↔
        (∃ entry, entry ∈ t.long.filter fun entry => name.isPrefixOf entry.1) ∧
          ∀ entry ∈ t.long.filter (fun entry => name.isPrefixOf entry.1), entry.2 = value := by
      constructor
      · rintro (own' | ⟨_, ⟨entry, there, pre⟩, agree⟩)
        · rw [own] at own'
          cases own'
        · refine ⟨⟨entry, (matching entry).2 ⟨there, pre⟩⟩, fun entry' there' => ?_⟩
          obtain ⟨there', pre'⟩ := (matching entry').1 there'
          exact agree entry' there' pre'
      · rintro ⟨⟨entry, there⟩, agree⟩
        obtain ⟨there', pre⟩ := (matching entry).1 there
        exact .short own ⟨entry, there', pre⟩ fun entry there pre =>
          agree entry ((matching entry).2 ⟨there, pre⟩)
    rw [named]
    generalize t.long.filter (fun entry => name.isPrefixOf entry.1) = found
    cases found with
    | nil => simp
    | cons first others =>
      simp only [List.map_cons, List.mem_map, Option.ite_none_right_eq_some, Option.some.injEq]
      constructor
      · rintro ⟨agree, rfl⟩
        refine ⟨⟨first, List.mem_cons_self⟩, fun entry there => ?_⟩
        rcases List.mem_cons.1 there with rfl | later
        · rfl
        · exact agree _ ⟨entry, later, rfl⟩
      · rintro ⟨_, agree⟩
        refine ⟨?_, agree first List.mem_cons_self⟩
        rintro _ ⟨entry, later, rfl⟩
        rw [agree entry (List.mem_cons_of_mem _ later), agree first List.mem_cons_self]

/-- Up to the first `=`. -/
theorem takeWhile_append_eq {name : CString} (plain : '=' ∉ name) (optarg : CString) :
    (name ++ '=' :: optarg).takeWhile (· ≠ '=') = name ∧
    (name ++ '=' :: optarg).dropWhile (· ≠ '=') = '=' :: optarg := by
  have passed : ∀ c ∈ name, decide (c ≠ '=') = true := by
    intro c there
    rw [decide_eq_true_eq]
    rintro rfl
    exact plain there
  rw [List.takeWhile_append_of_pos passed, List.dropWhile_append_of_pos passed]
  simp

theorem takeWhile_of_notMem {name : CString} (plain : '=' ∉ name) :
    name.takeWhile (· ≠ '=') = name ∧ name.dropWhile (· ≠ '=') = [] := by
  have passed : ∀ c ∈ name, decide (c ≠ '=') = true := by
    intro c there
    rw [decide_eq_true_eq]
    rintro rfl
    exact plain there
  exact ⟨List.takeWhile_eq_self_iff.2 passed, List.dropWhile_eq_nil_iff.2 passed⟩

theorem notMem_takeWhile (body : CString) : '=' ∉ body.takeWhile (· ≠ '=') := by
  intro there
  simpa using List.mem_takeWhile_imp there

/-- What stands at the first `=`, if there is one. -/
theorem dropWhile_cases (body : CString) : body.dropWhile (· ≠ '=') = [] ∨
    ∃ optarg, body.dropWhile (· ≠ '=') = '=' :: optarg := by
  cases rest : body.dropWhile (· ≠ '=') with
  | nil => exact .inl rfl
  | cons c optarg =>
    have stop := List.head?_dropWhile_not (fun c => decide (c ≠ '=')) body
    rw [rest] at stop
    have same : c = '=' := by simpa using stop
    exact .inr ⟨optarg, by rw [same]⟩

theorem element_of_longElement {body : CString} (some_body : body ≠ [])
    (known : .unknown ∉ (t.longElement body).1) :
    t.Element ('-' :: '-' :: body) (t.longElement body).1 (t.longElement body).2 := by
  have whole := List.takeWhile_append_dropWhile (p := fun c => decide (c ≠ '=')) (l := body)
  have plain := notMem_takeWhile body
  unfold longElement at known ⊢
  rcases dropWhile_cases body with none_behind | ⟨optarg, behind⟩
  · rw [none_behind, List.append_nil] at whole
    rw [whole] at plain known ⊢
    rw [none_behind] at known ⊢
    cases found : t.findLong body with
    | none =>
      rw [found] at known
      exact absurd List.mem_cons_self known
    | some value =>
      cases value with
      | noArgument flag => exact .flag some_body plain (findLong_eq_some_iff.1 found)
      | requiredArgument operand => exact .waits some_body plain (findLong_eq_some_iff.1 found)
  · rw [behind] at known whole ⊢
    cases found : t.findLong (body.takeWhile fun c => decide (c ≠ '=')) with
    | none =>
      rw [found] at known
      exact absurd List.mem_cons_self known
    | some value =>
      rw [found] at known
      cases value with
      | noArgument flag => exact absurd List.mem_cons_self known
      | requiredArgument operand =>
        have spelled : t.Element ('-' :: '-' ::
          (body.takeWhile (fun c => decide (c ≠ '=')) ++ '=' :: optarg))
            [.operand operand optarg] none := .attached plain (findLong_eq_some_iff.1 found)
        rw [whole] at spelled
        exact spelled

/-- An element is read as what it spells. -/
theorem Element.getoptLong_eq {element : CString} {given : List (Opt Flag Operand)}
    {waiting : Option Operand}
    (h : t.Element element given waiting) (posixlyCorrect : Bool) (rest : List CString) :
    t.getoptLong posixlyCorrect none (element :: rest) =
      given ++ t.getoptLong posixlyCorrect waiting rest := by
  cases h with
  | flag some_name plain names =>
    obtain ⟨c, name, rfl⟩ := List.exists_cons_of_ne_nil some_name
    obtain ⟨taken, dropped⟩ := takeWhile_of_notMem plain
    simp only [getoptLong, longElement, taken, dropped, findLong_eq_some_iff.2 names]
  | @attached name optarg operand plain names =>
    obtain ⟨taken, dropped⟩ := takeWhile_append_eq plain optarg
    cases body : name ++ '=' :: optarg with
    | nil => simp at body
    | cons c rest' =>
      rw [body] at taken dropped
      simp only [getoptLong, longElement, taken, dropped, findLong_eq_some_iff.2 names]
  | waits some_name plain names =>
    obtain ⟨c, name, rfl⟩ := List.exists_cons_of_ne_nil some_name
    obtain ⟨taken, dropped⟩ := takeWhile_of_notMem plain
    simp only [getoptLong, longElement, taken, dropped, findLong_eq_some_iff.2 names]
  | cluster single letters =>
    rw [getoptLong]
    · rw [letters.shortElement_eq]
    · simp [single]
    · simp [single]

/-! ## Command lines -/

theorem getoptLong_plain {element : CString} (plain : IsPlain element) (posixlyCorrect : Bool)
    (rest : List CString) :
    t.getoptLong posixlyCorrect none (element :: rest) =
      if posixlyCorrect then [] else t.getoptLong posixlyCorrect none rest := by
  rw [getoptLong]
  · exact fun same => plain '-' [] same
  · exact fun body same => plain '-' body same
  · exact fun c cluster same => plain c cluster same

/-- An element is `--`, no option, or some letters or a name. -/
theorem element_cases (t : OptionTable Flag Operand) (element : CString) :
    element = ['-', '-'] ∨ IsPlain element ∨
      ∃ first waiting, (.unknown ∉ first → t.Element element first waiting) ∧
      ∀ posixlyCorrect rest, t.getoptLong posixlyCorrect none (element :: rest) =
        first ++ t.getoptLong posixlyCorrect waiting rest := by
  by_cases plain : IsPlain element
  · exact .inr (.inl plain)
  · simp only [IsPlain, not_forall, not_not] at plain
    obtain ⟨c, rest, rfl⟩ := plain
    by_cases dash : c = '-'
    · subst dash
      cases rest with
      | nil => exact .inl rfl
      | cons c body =>
        refine .inr (.inr ⟨_, _, element_of_longElement (List.cons_ne_nil c body),
          fun posixlyCorrect rest => ?_⟩)
        simp only [getoptLong]
    · refine .inr (.inr ⟨_, _, fun known => .cluster dash (cluster_of_shortElement known),
        fun posixlyCorrect rest' => ?_⟩)
      rw [getoptLong]
      · simp [dash]
      · simp [dash]

/-- What is read without an unknown option is spelled by the elements. -/
theorem spells_getoptLong (posixlyCorrect : Bool) (elements : List CString)
    (known : .unknown ∉ t.getoptLong posixlyCorrect none elements) :
    t.Spells posixlyCorrect elements (t.getoptLong posixlyCorrect none elements) := by
  induction length : elements.length using Nat.strong_induction_on generalizing elements with
  | h n ih =>
    subst length
    cases elements with
    | nil => exact .nil
    | cons element rest =>
      rcases element_cases t element with rfl | plain | ⟨first, waiting, spelled, reads⟩
      · exact .dashes rest
      · rw [getoptLong_plain plain] at known ⊢
        cases posixlyCorrect with
        | true => exact .stop plain rfl rest
        | false => exact .skip plain rfl (ih rest.length (Nat.lt_succ_self _) rest known rfl)
      · rw [reads] at known ⊢
        have known_first : .unknown ∉ first := fun there => known (List.mem_append_left _ there)
        have known_rest : .unknown ∉ t.getoptLong posixlyCorrect waiting rest :=
          fun there => known (List.mem_append_right _ there)
        have one := spelled known_first
        cases waiting with
        | none => exact .one one (ih rest.length (Nat.lt_succ_self _) rest known_rest rfl)
        | some operand =>
          cases rest with
          | nil => exact absurd List.mem_cons_self known_rest
          | cons optarg rest =>
            have known_later : .unknown ∉ t.getoptLong posixlyCorrect none rest :=
              fun there => known_rest (List.mem_cons_of_mem _ there)
            have shorter : rest.length < (element :: optarg :: rest).length :=
              Nat.lt_of_lt_of_le (Nat.lt_succ_self _) (Nat.le_succ _)
            exact .two one (ih rest.length shorter rest known_later rfl)

/-- The elements are read as what they spell. -/
theorem Spells.getoptLong_eq {posixlyCorrect : Bool} {elements : List CString}
    {given : List (Opt Flag Operand)} (h : t.Spells posixlyCorrect elements given) :
    t.getoptLong posixlyCorrect none elements = given := by
  induction h with
  | nil => rfl
  | dashes rest => rfl
  | stop plain posix rest => rw [getoptLong_plain plain, if_pos posix]
  | skip plain posix _ ih => rw [getoptLong_plain plain, if_neg (by simp [posix]), ih]
  | one options _ ih => rw [options.getoptLong_eq, ih]
  | two options _ ih => rw [options.getoptLong_eq, getoptLong, ih]

omit [DecidableEq Flag] [DecidableEq Operand] in
theorem Cluster.known {s : CString} {given : List (Opt Flag Operand)} {waiting : Option Operand}
    (h : t.Cluster s given waiting) : .unknown ∉ given := by
  induction h with
  | nil => exact List.not_mem_nil
  | flag _ _ ih => simpa using ih
  | attached => simp
  | waits => exact List.not_mem_nil

omit [DecidableEq Flag] [DecidableEq Operand] in
theorem Element.known {element : CString} {given : List (Opt Flag Operand)}
    {waiting : Option Operand} (h : t.Element element given waiting) : .unknown ∉ given := by
  cases h with
  | flag => simp
  | attached => simp
  | waits => exact List.not_mem_nil
  | cluster _ letters => exact letters.known

omit [DecidableEq Flag] [DecidableEq Operand] in
theorem Spells.known {posixlyCorrect : Bool} {elements : List CString}
    {given : List (Opt Flag Operand)}
    (h : t.Spells posixlyCorrect elements given) : .unknown ∉ given := by
  induction h with
  | nil => exact List.not_mem_nil
  | dashes => exact List.not_mem_nil
  | stop => exact List.not_mem_nil
  | skip _ _ _ ih => exact ih
  | one options _ ih =>
    rw [List.mem_append, not_or]
    exact ⟨options.known, ih⟩
  | two options _ ih =>
    rw [List.mem_append, not_or]
    exact ⟨options.known, by simpa using ih⟩

/-- **The grammar of a command line.** -/
theorem getoptLong_eq_iff {posixlyCorrect : Bool} {elements : List CString}
    {given : List (Opt Flag Operand)} :
    t.getoptLong posixlyCorrect none elements = given ∧
    .unknown ∉ given ↔ t.Spells posixlyCorrect elements given := by
  constructor
  · rintro ⟨rfl, known⟩
    exact spells_getoptLong posixlyCorrect elements known
  · exact fun h => ⟨h.getoptLong_eq, h.known⟩

end

/-! ## The last argument -/

/-- The argument of an option, if it is this one. -/
def argumentFor [DecidableEq Operand] (operand : Operand) : Opt Flag Operand → Option CString
  | .operand operand' optarg => if operand' = operand then some optarg else none
  | _ => none

def lastFor [DecidableEq Operand] (operand : Operand) (given : List (Opt Flag Operand)) :
    Option CString :=
  (given.filterMap (argumentFor operand)).getLast?

theorem lastFor_concat [DecidableEq Operand] (operand : Operand) (given : List (Opt Flag Operand))
    (o : Opt Flag Operand) :
    lastFor operand (given ++ [o]) = (argumentFor operand o).or (lastFor operand given) := by
  rw [lastFor, List.filterMap_append]
  cases h : argumentFor operand o with
  | none => simp [h, lastFor]
  | some optarg => simp [h]

/-! ## A loop that can refuse an option -/

section Loop
variable {σ ε α : Type} {step : σ → α → Except ε σ} {Passes : α → Prop} {Refused : α → ε → Prop}

/-- The loop ends when it goes on behind every option. -/
theorem foldlM_isOk_iff (goes_on : ∀ s a, (∃ s', step s a = .ok s') ↔ Passes a) (s : σ)
    (given : List α) :
    (∃ s', given.foldlM step s = .ok s') ↔ ∀ a ∈ given, Passes a := by
  induction given generalizing s with
  | nil => exact iff_of_true ⟨s, rfl⟩ (by simp)
  | cons a given ih =>
    rw [List.foldlM_cons, List.forall_mem_cons, ← goes_on s a]
    cases first : step s a with
    | error exit => exact iff_of_false nofun nofun
    | ok middle =>
      rw [← ih middle]
      exact (and_iff_right ⟨middle, rfl⟩).symm

/-- It fails as the first option it refuses says. -/
theorem foldlM_eq_error_iff (goes_on : ∀ s a, (∃ s', step s a = .ok s') ↔ Passes a)
    (refused : ∀ s a exit, step s a = .error exit ↔ Refused a exit) (s : σ) (given : List α)
    (exit : ε) :
    given.foldlM step s = .error exit ↔
      ∃ before a after, given = before ++ a :: after ∧ (∀ b ∈ before, Passes b) ∧
        Refused a exit := by
  induction given generalizing s with
  | nil => exact iff_of_false nofun (by simp)
  | cons first given ih =>
    rw [List.foldlM_cons]
    cases stepped : step s first with
    | error exit' =>
      constructor
      · intro same
        cases same
        exact ⟨[], first, given, rfl, by simp, (refused s first _).1 stepped⟩
      · rintro ⟨before, a, after, split, passes, refused'⟩
        cases before with
        | nil =>
          cases split
          have same := (refused s first exit).2 refused'
          rw [stepped] at same
          cases same
          rfl
        | cons b before =>
          cases split
          obtain ⟨s', ok⟩ := (goes_on s first).2 (passes first List.mem_cons_self)
          rw [ok] at stepped
          cases stepped
    | ok middle =>
      have passed := (goes_on s first).1 ⟨middle, stepped⟩
      have unfolded : (Except.ok middle >>= fun s => given.foldlM step s) =
        given.foldlM step middle := rfl
      rw [unfolded, ih middle]
      constructor
      · rintro ⟨before, a, after, rfl, passes, refused'⟩
        exact ⟨first :: before, a, after, rfl, List.forall_mem_cons.2 ⟨passed, passes⟩, refused'⟩
      · rintro ⟨before, a, after, split, passes, refused'⟩
        cases before with
        | nil =>
          cases split
          rw [(refused s _ exit).2 refused'] at stepped
          cases stepped
        | cons b before =>
          cases split
          exact ⟨before, a, after, rfl, (List.forall_mem_cons.1 passes).2, refused'⟩

end Loop

/-! ## A way to write any options -/

/-- Each option by its long name, and its argument in an element of its own. -/
def spelling (name : OptionValue Flag Operand → CString) : List (Opt Flag Operand) → List CString
  | [] => []
  | .flag flag :: given => ('-' :: '-' :: name (.noArgument flag)) :: spelling name given
  | .operand operand optarg :: given =>
    ('-' :: '-' :: name (.requiredArgument operand)) :: optarg :: spelling name given
  | .unknown :: given => spelling name given

/-- A whole name for every option. -/
structure Naming (t : OptionTable Flag Operand)
    (name : OptionValue Flag Operand → CString) : Prop where
  own : ∀ value, t.long.lookup (name value) = some value
  some_name : ∀ value, name value ≠ []
  plain : ∀ value, '=' ∉ name value

theorem Naming.spells {name : OptionValue Flag Operand → CString} (h : t.Naming name)
    (posixlyCorrect : Bool) {given : List (Opt Flag Operand)} (known : .unknown ∉ given) :
    t.Spells posixlyCorrect (spelling name given) given := by
  induction given with
  | nil => exact .nil
  | cons o given ih =>
    have rest := ih fun there => known (List.mem_cons_of_mem _ there)
    cases o with
    | flag flag => exact .one (.flag (h.some_name _) (h.plain _) (.whole (h.own _))) rest
    | operand operand optarg =>
      exact .two (.waits (h.some_name _) (h.plain _) (.whole (h.own _))) rest
    | unknown => exact absurd List.mem_cons_self known

end CLib.OptionTable
