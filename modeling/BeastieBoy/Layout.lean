import Mathlib.Data.List.DropRight
import Mathlib.Algebra.BigOperators.Group.List.Basic
import Mathlib.Algebra.Order.Ring.Int

/-!
# Fields in a line

A line made of fields with the same gap between any two of them. The widths of
the fields say where each stands, and so the line can be cut up again; a line
whose fields do not hold the character of the gap shows the widths itself.
-/

namespace Layout

variable {α : Type}

def slice (line : List α) (start width : Nat) : List α := (line.drop start).take width

/-- Where field `j` starts. -/
def offset (gap : Nat) (widths : List Nat) (j : Nat) : Nat := (widths.take j).sum + gap * j

def widths (fields : List (List α)) : List Nat := fields.map List.length

@[simp] theorem widths_nil : widths ([] : List (List α)) = [] := rfl

@[simp] theorem widths_cons (field : List α) (fields : List (List α)) :
    widths (field :: fields) = field.length :: widths fields := rfl

@[simp] theorem length_widths (fields : List (List α)) : (widths fields).length = fields.length :=
  List.length_map _

theorem offset_succ_cons (gap w : Nat) (ws : List Nat) (j : Nat) :
    offset gap (w :: ws) (j + 1) = w + gap + offset gap ws j := by
  simp only [offset, List.take_succ_cons, List.sum_cons, Nat.mul_succ]
  omega

theorem length_intercalate (gap : List α) (fields : List (List α)) :
    (gap.intercalate fields).length = (widths fields).sum + gap.length * (fields.length - 1) := by
  induction fields with
  | nil => rfl
  | cons field fields ih =>
    cases fields with
    | nil => simp
    | cons next rest =>
      have one_more : gap.length * (rest.length + 1) = gap.length * rest.length + gap.length := rfl
      simp only [List.intercalate_cons_cons, List.length_append, ih, widths_cons, List.sum_cons,
        List.length_cons, Nat.add_sub_cancel, one_more]
      omega

/-- What stands from field `j` on. -/
theorem drop_offset {gap : List α} {fields : List (List α)} {j : Nat} (inside : j < fields.length) :
    (gap.intercalate fields).drop (offset gap.length (widths fields) j) =
      gap.intercalate (fields.drop j) := by
  induction fields generalizing j with
  | nil => cases inside
  | cons field fields ih =>
    cases j with
    | zero => simp [offset]
    | succ j =>
      have inside' : j < fields.length := Nat.lt_of_succ_lt_succ inside
      have more : fields ≠ [] :=
        List.ne_nil_of_length_pos (Nat.lt_of_le_of_lt (Nat.zero_le j) inside')
      rw [List.intercalate_cons_of_ne_nil more, widths_cons, offset_succ_cons, ← List.length_append,
        List.drop_length_add_append, ih inside', List.drop_succ_cons]

theorem slice_field {gap : List α} {fields : List (List α)} {j : Nat} {field : List α}
    (there : fields[j]? = some field) :
    slice (gap.intercalate fields) (offset gap.length (widths fields) j) field.length = field := by
  obtain ⟨inside, rfl⟩ := List.getElem?_eq_some_iff.1 there
  rw [slice, drop_offset inside, List.drop_eq_getElem_cons inside]
  cases fields.drop (j + 1) with
  | nil => simp
  | cons next rest => simp [List.append_assoc]

theorem slice_gap {gap : List α} {fields : List (List α)} {j : Nat} {field : List α}
    (there : fields[j]? = some field) (more : j + 1 < fields.length) :
    slice (gap.intercalate fields)
      (offset gap.length (widths fields) j + field.length) gap.length = gap := by
  obtain ⟨inside, rfl⟩ := List.getElem?_eq_some_iff.1 there
  have behind : fields.drop (j + 1) ≠ [] := by simpa using more
  rw [slice, ← List.drop_drop, drop_offset inside, List.drop_eq_getElem_cons inside,
    List.intercalate_cons_of_ne_nil behind, List.append_assoc, List.drop_left, List.take_left]

/-- The fields of a line with these widths. -/
def cut (gap : Nat) (widths : List Nat) (line : List α) : List (List α) :=
  (List.range widths.length).map fun j => slice line (offset gap widths j) (widths.getD j 0)

theorem cut_intercalate (gap : List α) (fields : List (List α)) :
    cut gap.length (widths fields) (gap.intercalate fields) = fields := by
  apply List.ext_getElem
  · simp [cut]
  · intro j _ inside
    have width : (widths fields).getD j 0 = fields[j].length := by
      simp [widths, List.getD_eq_getElem?_getD, inside]
    simp only [cut, List.getElem_map, List.getElem_range, width]
    exact slice_field (List.getElem?_eq_getElem inside)

theorem mem_intercalate {gap : List α} {fields : List (List α)} {c : α}
    (h : c ∈ gap.intercalate fields) :
    c ∈ gap ∨ ∃ field ∈ fields, c ∈ field := by
  induction fields with
  | nil => simp at h
  | cons field fields ih =>
    cases fields with
    | nil => exact .inr ⟨field, List.mem_cons_self, by simpa using h⟩
    | cons next rest =>
      simp only [List.intercalate_cons_cons, List.mem_append] at h
      rcases h with (first | between) | behind
      · exact .inr ⟨field, List.mem_cons_self, first⟩
      · exact .inl between
      · rcases ih behind with between | ⟨field', member, there⟩
        · exact .inl between
        · exact .inr ⟨field', List.mem_cons_of_mem _ member, there⟩

/-! ## Reading the widths off a line -/

variable [DecidableEq α]

/-- What stands between the runs of `blank`. -/
def words (blank : α) (line : List α) : List (List α) := (line.splitOn blank).filter (· ≠ [])

theorem words_blank_cons (blank : α) (line : List α) :
    words blank (blank :: line) = words blank line := by
  have split := List.splitOn_append_cons_self_of_not_mem (List.not_mem_nil (a := blank)) line
  rw [List.nil_append] at split
  rw [words, split, List.filter_cons_of_neg (by simp), words]

theorem words_gap_append {blank : α} {gap : List α} (blanks : ∀ c ∈ gap, c = blank)
    (line : List α) :
    words blank (gap ++ line) = words blank line := by
  induction gap with
  | nil => rfl
  | cons c gap ih =>
    obtain rfl : c = blank := blanks c List.mem_cons_self
    rw [List.cons_append, words_blank_cons, ih fun c hc => blanks c (List.mem_cons_of_mem _ hc)]

/-- A line that starts with a word. -/
theorem words_append {blank : α} {word : List α} (some_word : word ≠ []) (solid : blank ∉ word)
    (line : List α) : words blank (word ++ blank :: line) = word :: words blank line := by
  have split := List.splitOn_append_cons_self_of_not_mem solid line
  rw [words, split, List.filter_cons_of_pos (by simpa using some_word), words]

theorem words_of_solid {blank : α} {word : List α} (some_word : word ≠ []) (solid : blank ∉ word) :
    words blank word = [word] := by
  simp [words, List.splitOn_eq_singleton solid, some_word]

theorem words_intercalate {blank : α} {gap : List α} (blanks : ∀ c ∈ gap, c = blank)
    (some_gap : gap ≠ [])
    {fields : List (List α)} (solid : ∀ field ∈ fields, field ≠ [] ∧ blank ∉ field) :
    words blank (gap.intercalate fields) = fields := by
  induction fields with
  | nil => simp [words]
  | cons field fields ih =>
    obtain ⟨⟨some_field, solid_field⟩, solid_rest⟩ := List.forall_mem_cons.1 solid
    cases fields with
    | nil => simp [words_of_solid some_field solid_field]
    | cons next rest =>
      obtain ⟨c, gap, rfl⟩ := List.exists_cons_of_ne_nil some_gap
      obtain rfl : c = blank := blanks c List.mem_cons_self
      have tail : ∀ d ∈ gap, d = c := fun d hd => blanks d (List.mem_cons_of_mem _ hd)
      rw [List.intercalate_cons_cons, List.append_assoc, List.cons_append,
        words_append some_field solid_field, words_gap_append tail, ih solid_rest]

/-- Lines with a mark behind each come apart at the marks. -/
theorem splitOn_flatMap {mark : α} {lines : List (List α)}
    (unmarked : ∀ line ∈ lines, mark ∉ line) :
    (lines.flatMap (· ++ [mark])).splitOn mark = lines ++ [[]] := by
  induction lines with
  | nil => rfl
  | cons line lines ih =>
    obtain ⟨first, others⟩ := List.forall_mem_cons.1 unmarked
    rw [List.flatMap_cons, List.append_assoc, List.singleton_append,
      List.splitOn_append_cons_self_of_not_mem first, ih others, List.cons_append]

/-! ## Padding -/

theorem dropWhile_padding {blank : α} (n : Nat) {text : List α} (bare : text.head? ≠ some blank) :
    (List.replicate n blank ++ text).dropWhile (· = blank) = text := by
  rw [List.dropWhile_append_of_pos (by simp)]
  cases text with
  | nil => rfl
  | cons c text =>
    apply List.dropWhile_cons_of_neg
    simpa using bare

theorem rdropWhile_padding {blank : α} (n : Nat) {text : List α}
    (bare : text.getLast? ≠ some blank) :
    (text ++ List.replicate n blank).rdropWhile (· = blank) = text := by
  rw [List.rdropWhile, List.reverse_append, List.reverse_replicate, dropWhile_padding,
    List.reverse_reverse]
  rwa [List.head?_reverse]

end Layout
