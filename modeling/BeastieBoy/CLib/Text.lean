import BeastieBoy.CLib.Numeral
import BeastieBoy.Layout

/-!
# Pieces of a C string

`strtok_r` with one delimiter, and the conversions of `sscanf` that `boy` uses.
A conversion gives what it read and the rest, or `none` when it does not match.
-/

namespace CLib

/-- `strtok_r(s, delim, &rest)`: the token, and what is left behind it. -/
def strtok (delim : Char) (s : CString) : Option (CString × CString) :=
  let start := s.dropWhile (· = delim)
  if start = [] then none
  else some (start.takeWhile (· ≠ delim), (start.dropWhile (· ≠ delim)).drop 1)

theorem length_rest_of_strtok {delim : Char} {s token rest : CString}
    (h : strtok delim s = some (token, rest)) :
    rest.length < s.length := by
  simp only [strtok] at h
  split at h
  · cases h
  · rename_i some_left
    have skipped := (List.dropWhile_sublist (· = delim) (l := s)).length_le
    have behind := (List.dropWhile_sublist (· ≠ delim) (l := s.dropWhile (· = delim))).length_le
    have positive := List.length_pos_iff.2 some_left
    simp only [Option.some.injEq, Prod.mk.injEq] at h
    rw [← h.2, List.length_drop]
    omega

/-- The tokens of a loop over `strtok_r`. -/
def tokens (delim : Char) (s : CString) : List CString :=
  match _ : strtok delim s with
  | none => []
  | some (token, rest) => token :: tokens delim rest
termination_by s.length
decreasing_by exact length_rest_of_strtok (by assumption)

/-- A text that does not start with the delimiter starts with a token. -/
theorem words_start {delim : Char} {s : CString} (some_left : s ≠ [])
    (undelimited : s.head? ≠ some delim) :
    Layout.words delim s =
      s.takeWhile (· ≠ delim) :: Layout.words delim ((s.dropWhile (· ≠ delim)).drop 1) := by
  have some_token : s.takeWhile (· ≠ delim) ≠ [] := by
    obtain ⟨c, s, rfl⟩ := List.exists_cons_of_ne_nil some_left
    have first : c ≠ delim := by simpa using undelimited
    simp [first]
  have solid : delim ∉ s.takeWhile (· ≠ delim) := by
    intro inside
    simpa using List.mem_takeWhile_imp inside
  have parts := List.takeWhile_append_dropWhile (p := (· ≠ delim)) (l := s)
  have stop := List.head?_dropWhile_not (· ≠ delim) s
  cases behind : s.dropWhile (· ≠ delim) with
  | nil =>
    rw [behind, List.append_nil] at parts
    rw [parts, Layout.words_of_solid some_left (parts ▸ solid)]
    rfl
  | cons d rest =>
    rw [behind] at parts stop
    obtain rfl : d = delim := by simpa using stop
    conv => lhs; rw [← parts]
    exact Layout.words_append some_token solid rest

/-- The tokens are what stands between the delimiters. -/
theorem tokens_eq (delim : Char) (s : CString) : tokens delim s = Layout.words delim s := by
  fun_induction tokens delim s with
  | case1 s none =>
    simp only [strtok] at none
    split at none
    · rename_i all
      have delims : ∀ c ∈ s, c = delim := by simpa [List.dropWhile_eq_nil_iff] using all
      have empty := Layout.words_gap_append delims []
      rw [List.append_nil] at empty
      rw [empty]
      rfl
    · cases none
  | case2 s token rest found ih =>
    simp only [strtok] at found
    split at found
    · cases found
    · rename_i some_left
      simp only [Option.some.injEq, Prod.mk.injEq] at found
      obtain ⟨rfl, rfl⟩ := found
      have skipped : ∀ c ∈ s.takeWhile (· = delim), c = delim := by
        intro c hc
        simpa using List.mem_takeWhile_imp hc
      have start := Layout.words_gap_append skipped (s.dropWhile (· = delim))
      rw [List.takeWhile_append_dropWhile] at start
      have stop := List.head?_dropWhile_not (· = delim) s
      have undelimited : (s.dropWhile (· = delim)).head? ≠ some delim := by
        intro again
        simp [again] at stop
      rw [start, ih, words_start some_left undelimited]

/-- `%<width>s`. -/
def scanString (width : Nat) (s : CString) : Option (CString × CString) :=
  let start := s.dropWhile isspace
  let read := (start.takeWhile fun c => !isspace c).take width
  if read = [] then none else some (read, start.drop read.length)

/-- `%u`, 32 bits wide. -/
def scanUnsigned (s : CString) : Option (Nat × CString) :=
  let parsed := strtoul s
  if parsed.2 = s then none else some (parsed.1 % 2 ^ 32, parsed.2)

/-- A space in the format of `sscanf`. -/
def scanSpace (s : CString) : CString := s.dropWhile isspace

/-- What `snprintf` leaves of a text in a buffer of this size. -/
def snprintf (size : Nat) (text : CString) : CString := text.take (size - 1)

end CLib
