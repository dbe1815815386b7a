import BeastieBoy.Arguments

/-!
# Which integers the range checks let through

`boy_parse_u32` compares what `strtoul` made of a numeral with the 32-bit
maximum, `parse_max_capture_bytes` compares nothing. A negative numeral was
negated modulo `2 ^ 64` by then, and one that is too large is `ULONG_MAX`.
-/

namespace BeastieBoy

open CLib

/-- `parse` takes `s` exactly if it denotes an integer from 0 up to `bound`, and
stores this integer. -/
def ReadsBelow (parse : CString → Option Nat) (bound : ℤ) (s : CString) : Prop :=
  ((∃ r, parse s = some r) ↔ ∃ z, Denotes s z ∧ 0 ≤ z ∧ z < bound) ∧
    ∀ r : Nat, parse s = some r → Denotes s r

/-- Negated modulo `2 ^ 64` these have 32 bits. -/
def WrapsTo32 (z : ℤ) : Prop := -(2 ^ 64 - 1) ≤ z ∧ z ≤ -(2 ^ 64 - 2 ^ 32 + 1)

theorem toULong_of_neg {n : Numeral} (lo : -2 ^ 64 < n.value) (hi : n.value < 0) :
    (n.toULong : ℤ) = 2 ^ 64 + n.value := by
  unfold Numeral.value at lo hi
  unfold Numeral.toULong Numeral.value toULong
  by_cases hs : n.sign = .minus
  · simp only [hs, ↓reduceIte] at lo hi
    have small : ¬ 2 ^ 64 ≤ decimal n.digits := by omega
    simp only [hs, small, ↓reduceIte, decide_true]
    omega
  · simp only [hs, ↓reduceIte] at hi
    omega

/-- Far below zero the conversion saturates too. -/
theorem toULong_of_small {n : Numeral} (small : n.value ≤ -2 ^ 64) : n.toULong = 2 ^ 64 - 1 := by
  unfold Numeral.value at small
  unfold Numeral.toULong toULong
  by_cases hs : n.sign = .minus
  · simp only [hs, ↓reduceIte] at small
    rw [if_pos (by omega)]
  · simp only [hs, ↓reduceIte] at small
    omega

theorem denotes_text_iff (n : Numeral) (z : ℤ) : Denotes n.text z ↔ z = n.value := by
  constructor
  · exact fun h => h.unique ⟨n, rfl, rfl⟩
  · rintro rfl
    exact ⟨n, rfl, rfl⟩

section Parser
variable {accepts : Nat → Bool} {width : Nat}

theorem parseUnsigned_text (n : Numeral) (r : Nat) : parseUnsigned accepts width n.text = some r ↔
    accepts n.toULong = true ∧ r = n.toULong % 2 ^ width := by
  have read := strtoul_numeral n
  rw [parseUnsigned_eq_some_iff]
  constructor
  · rintro ⟨m, same, accepted, rfl⟩
    have read' := strtoul_numeral m
    rw [same, read, Prod.mk.injEq] at read'
    rw [read'.1]
    exact ⟨accepted, rfl⟩
  · rintro ⟨accepted, rfl⟩
    exact ⟨n, rfl, accepted, rfl⟩

/-- On a numeral the test decides, and what was converted is to be its integer. -/
theorem readsBelow_text_iff (n : Numeral) (bound : ℤ) :
    ReadsBelow (parseUnsigned accepts width) bound n.text ↔
    (accepts n.toULong = true ↔ 0 ≤ n.value ∧ n.value < bound) ∧
      (accepts n.toULong = true → ((n.toULong % 2 ^ width : Nat) : ℤ) = n.value) := by
  have taken : (∃ r, parseUnsigned accepts width n.text = some r) ↔ accepts n.toULong = true := by
    simp [parseUnsigned_text]
  have denoted : (∃ z, Denotes n.text z ∧ 0 ≤ z ∧ z < bound) ↔ 0 ≤ n.value ∧ n.value < bound := by
    simp [denotes_text_iff]
  rw [ReadsBelow, taken, denoted]
  refine and_congr_right fun _ => ?_
  simp only [parseUnsigned_text, denotes_text_iff]
  constructor
  · exact fun stored accepted => stored _ ⟨accepted, rfl⟩
  · rintro stored r ⟨accepted, rfl⟩
    exact stored accepted

/-- What is no numeral is refused, as it should be. -/
theorem readsBelow_of_no_numeral {s : CString} (none : ¬ ∃ n : Numeral, n.text = s) (bound : ℤ) :
    ReadsBelow (parseUnsigned accepts width) bound s := by
  have refused (r : Nat) : ¬ parseUnsigned accepts width s = some r := by
    rw [parseUnsigned_eq_some_iff]
    rintro ⟨n, text, _⟩
    exact none ⟨n, text⟩
  refine ⟨⟨?_, ?_⟩, fun r taken => absurd taken (refused r)⟩
  · rintro ⟨r, taken⟩
    exact absurd taken (refused r)
  · rintro ⟨z, ⟨n, text, _⟩, _⟩
    exact absurd ⟨n, text⟩ none

end Parser

theorem readsBelow_boyParseU32_iff (s : CString) :
    ReadsBelow boyParseU32 (2 ^ 32) s ↔ ∀ z, Denotes s z → ¬ WrapsTo32 z := by
  by_cases numeral : ∃ n : Numeral, n.text = s
  · obtain ⟨n, rfl⟩ := numeral
    have compared : (!decide (n.toULong > 0xffffffff)) = true ↔ n.toULong ≤ 0xffffffff := by simp
    simp only [denotes_text_iff, forall_eq]
    unfold boyParseU32
    rw [readsBelow_text_iff, compared, WrapsTo32]
    rcases lt_or_ge n.value 0 with negative | nonneg
    · rcases le_or_gt n.value (-2 ^ 64) with small | within
      · rw [toULong_of_small small]
        constructor <;> omega
      · have wrapped := toULong_of_neg within negative
        constructor <;> omega
    · rcases lt_or_ge n.value (2 ^ 64) with fits | large
      · have same := toULong_of_nonneg nonneg fits
        constructor <;> omega
      · rw [toULong_of_large large]
        constructor <;> omega
  · refine iff_of_true (readsBelow_of_no_numeral numeral _) ?_
    rintro z ⟨n, text, _⟩
    exact absurd ⟨n, text⟩ numeral

theorem readsBelow_parseMaxCaptureBytes_iff (s : CString) :
    ReadsBelow parseMaxCaptureBytes (2 ^ 64) s ↔ ∀ z, Denotes s z → 0 ≤ z ∧ z < 2 ^ 64 := by
  by_cases numeral : ∃ n : Numeral, n.text = s
  · obtain ⟨n, rfl⟩ := numeral
    simp only [denotes_text_iff, forall_eq]
    unfold parseMaxCaptureBytes
    rw [readsBelow_text_iff]
    constructor
    · exact fun h => h.1.1 rfl
    · intro range
      have same := toULong_of_nonneg range.1 range.2
      refine ⟨iff_of_true rfl range, fun _ => ?_⟩
      omega
  · refine iff_of_true (readsBelow_of_no_numeral numeral _) ?_
    rintro z ⟨n, text, _⟩
    exact absurd ⟨n, text⟩ numeral

/-- **Which arguments are read for what they denote.** All of them by
`boy_parse_u32` but the negative integers that wrap to 32 bits, and by
`parse_max_capture_bytes` those that denote nothing outside 64 bits. -/
theorem arguments_in_range_iff (s : CString) :
    (ReadsBelow boyParseU32 (2 ^ 32) s ↔ ∀ z, Denotes s z → ¬ WrapsTo32 z) ∧
      (ReadsBelow parseMaxCaptureBytes (2 ^ 64) s ↔ ∀ z, Denotes s z → 0 ≤ z ∧ z < 2 ^ 64) :=
  ⟨readsBelow_boyParseU32_iff s, readsBelow_parseMaxCaptureBytes_iff s⟩

/-- A negative numeral is taken for one, another for the largest limit, and a
number that is too large for the same. -/
theorem out_of_range_accepted :
    boyParseU32 "-18446744073709551615".toList = some 1 ∧
      ¬ ReadsBelow boyParseU32 (2 ^ 32) "-18446744073709551615".toList ∧
      parseMaxCaptureBytes "-1".toList = some (2 ^ 64 - 1) ∧
      ¬ ReadsBelow parseMaxCaptureBytes (2 ^ 64) "-1".toList ∧
      parseMaxCaptureBytes "18446744073709551616".toList = some (2 ^ 64 - 1) ∧
      ¬ ReadsBelow parseMaxCaptureBytes (2 ^ 64) "18446744073709551616".toList := by
  have negative {ds : CString} {r z : Nat} {parse : CString → Option Nat} {bound : ℤ}
      (digits : ∀ c ∈ ds, isdigit c = true) (some_digits : ds ≠ []) (value : decimal ds = z)
      (positive : 0 < z)
      (taken : parse ('-' :: ds) = some r) : ¬ ReadsBelow parse bound ('-' :: ds) := by
    intro reads
    have denoted : Denotes ('-' :: ds) (-z) :=
      ⟨⟨[], .minus, ds, by simp, digits, some_digits⟩, rfl, by simp [Numeral.value, value]⟩
    have := (reads.2 r taken).unique denoted
    omega
  have large : Denotes "18446744073709551616".toList 18446744073709551616 :=
    ⟨⟨[], .none, "18446744073709551616".toList,
      by simp, List.all_eq_true.1 rfl, by decide⟩, rfl, rfl⟩
  refine ⟨rfl, ?_, rfl, ?_, rfl, ?_⟩
  · exact negative (List.all_eq_true.1 rfl) (by decide) (z := 18446744073709551615) rfl
      (by decide) rfl
  · exact negative (List.all_eq_true.1 rfl) (by decide) (z := 1) rfl (by decide) rfl
  · intro reads
    have := (reads.2 _ rfl).unique large
    omega

end BeastieBoy
