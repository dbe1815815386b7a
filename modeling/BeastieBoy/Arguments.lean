import BeastieBoy.CLib.Numeral

/-!
# The numeric command-line arguments

`boy` and `beastie` read every number with `strtoul` or `strtoull` (both are 64
bits wide) and store it in a field of its own width. `none` is the return value
`-1`, which leaves the field as it was.
-/

namespace BeastieBoy

open CLib

/-- The parsers' common body. `accepts` is the test a parser makes on the parsed
value, `width` the number of bits of the field it stores to. -/
def parseUnsigned (accepts : Nat → Bool) (width : Nat) (value : CString) : Option Nat :=
  let parsed := strtoul value
  if value = [] ∨ parsed.2 = value ∨ parsed.2 ≠ [] ∨ accepts parsed.1 = false then none
  else some (parsed.1 % 2 ^ width)

def boyParseIfIndex (value : CString) : Option Nat := parseUnsigned (fun _ => true) 32 value

def boyParseU32 (value : CString) : Option Nat :=
  parseUnsigned (fun parsed => !decide (parsed > 0xffffffff)) 32 value

def parseMaxCaptureBytes (value : CString) : Option Nat := parseUnsigned (fun _ => true) 64 value

def parseMemifId (value : CString) : Option Nat := parseUnsigned (fun _ => true) 32 value

/-- A parser accepts exactly the numerals that pass its test, and stores the
converted value cut to the field. -/
theorem parseUnsigned_eq_some_iff {accepts : Nat → Bool} {width : Nat} {s : CString} {r : Nat} :
    parseUnsigned accepts width s = some r ↔
      ∃ n : Numeral, n.text = s ∧ accepts n.toULong = true ∧ r = n.toULong % 2 ^ width := by
  have numeral := strtoul_accepts_iff s
  constructor
  · intro h
    simp only [parseUnsigned] at h
    split at h
    · cases h
    · rename_i hacc
      simp only [not_or, ne_eq, not_not, Bool.not_eq_false] at hacc
      obtain ⟨n, rfl⟩ := numeral.1 ⟨hacc.1, hacc.2.1, hacc.2.2.1⟩
      rw [strtoul_numeral] at h hacc
      exact ⟨n, rfl, hacc.2.2.2, (Option.some.inj h).symm⟩
  · rintro ⟨n, rfl, hacc, rfl⟩
    obtain ⟨hne, hend, _⟩ := numeral.2 ⟨n, rfl⟩
    rw [strtoul_numeral] at hend
    simp [parseUnsigned, strtoul_numeral, hne, hend, hacc]

theorem parseUnsigned_printed {accepts : Nat → Bool} {width n : Nat} (spaces zeros : Nat)
    (short : width ≤ 64) (fits : n < 2 ^ width) (accepted : accepts n = true) :
    parseUnsigned accepts width (Numeral.printed spaces zeros n).text = some n := by
  have room : 2 ^ width ≤ 2 ^ 64 := Nat.pow_le_pow_right (by decide) short
  have read := Numeral.toULong_printed spaces zeros (Nat.lt_of_lt_of_le fits room)
  rw [parseUnsigned_eq_some_iff]
  exact ⟨_, rfl, by rw [read, accepted], by rw [read, Nat.mod_eq_of_lt fits]⟩

/-- Inside the unsigned 64-bit range the conversion is the numeral's integer. -/
theorem toULong_of_nonneg {n : Numeral} (lo : 0 ≤ n.value) (hi : n.value < 2 ^ 64) :
    (n.toULong : ℤ) = n.value := by
  unfold Numeral.value at lo hi
  unfold Numeral.toULong Numeral.value toULong
  by_cases hs : n.sign = .minus
  · simp only [hs, ↓reduceIte] at lo hi
    have zero : decimal n.digits = 0 := by omega
    simp [hs, zero]
  · simp only [hs, ↓reduceIte] at hi
    have small : ¬ 2 ^ 64 ≤ decimal n.digits := by omega
    simp only [hs, small, ↓reduceIte, decide_false, Bool.false_eq_true]

/-- Above it the conversion saturates. -/
theorem toULong_of_large {n : Numeral} (large : 2 ^ 64 ≤ n.value) : n.toULong = 2 ^ 64 - 1 := by
  unfold Numeral.value at large
  unfold Numeral.toULong toULong
  by_cases hs : n.sign = .minus
  · simp only [hs, ↓reduceIte] at large
    omega
  · simp only [hs, ↓reduceIte] at large
    rw [if_pos (by omega)]

/-- What the caller of `parse` relies on when it hands over the argument `s`:
an accepted argument is an unsigned 32-bit integer and is the value stored. -/
def ExactAt (parse : CString → Option Nat) (s : CString) : Prop :=
  ∀ r, parse s = some r → ∃ z, Denotes s z ∧ 0 ≤ z ∧ z < 2 ^ 32 ∧ (r : ℤ) = z

/-- If `s` reads as a decimal integer at all, that integer needs no sign and no
more than 32 bits. -/
def Fits32 (s : CString) : Prop := ∀ z, Denotes s z → 0 ≤ z ∧ z < 2 ^ 32

theorem exactAt_unchecked_iff (s : CString) :
    ExactAt (parseUnsigned (fun _ => true) 32) s ↔ Fits32 s := by
  constructor
  · rintro h _ ⟨n, rfl, rfl⟩
    obtain ⟨z, hz, lo, hi, _⟩ := h _ (parseUnsigned_eq_some_iff.2 ⟨n, rfl, rfl, rfl⟩)
    have same : n.value = z := Denotes.unique ⟨n, rfl, rfl⟩ hz
    exact same ▸ ⟨lo, hi⟩
  · intro h r hr
    obtain ⟨n, rfl, _, rfl⟩ := parseUnsigned_eq_some_iff.1 hr
    obtain ⟨lo, hi⟩ := h n.value ⟨n, rfl, rfl⟩
    have conv := toULong_of_nonneg lo (by omega)
    refine ⟨n.value, ⟨n, rfl, rfl⟩, lo, hi, ?_⟩
    omega

/-- **An index selects what was typed exactly when it fits.** The parsers of
`--iface-idx`, `--unset-span` and `--id` make no range check, so they are exact
on the numerals of the 32-bit range and on nothing else; among these, arguments
that select the same interface denote the same integer. -/
theorem if_index_exact_iff_fits (s t : CString) :
    (ExactAt boyParseIfIndex s ↔ Fits32 s) ∧ (ExactAt parseMemifId s ↔ Fits32 s) ∧
    (Fits32 s ∧ Fits32 t ∧
        ((∃ r, boyParseIfIndex s = some r ∧ boyParseIfIndex t = some r) ∨
          ∃ r, parseMemifId s = some r ∧ parseMemifId t = some r) →
      ∃ z, Denotes s z ∧ Denotes t z) := by
  refine ⟨exactAt_unchecked_iff s, exactAt_unchecked_iff s, ?_⟩
  rintro ⟨hs, ht, same⟩
  obtain ⟨r, hr, hr'⟩ : ∃ r, parseUnsigned (fun _ => true) 32 s = some r ∧
      parseUnsigned (fun _ => true) 32 t = some r := by
    rcases same with ⟨r, h⟩ | ⟨r, h⟩ <;> exact ⟨r, h⟩
  obtain ⟨y, hy, _, _, ey⟩ := (exactAt_unchecked_iff s).2 hs r hr
  obtain ⟨z, hz, _, _, ez⟩ := (exactAt_unchecked_iff t).2 ht r hr'
  exact ⟨y, hy, by rwa [← ey, ez]⟩

/-- Two to the thirty-second plus two is taken for two, by both tools. -/
theorem if_index_wraps :
    ¬ ExactAt boyParseIfIndex "4294967298".toList ∧ ¬ ExactAt parseMemifId "4294967298".toList ∧
    boyParseIfIndex "4294967298".toList = boyParseIfIndex "2".toList := by
  have digits : ∀ c ∈ "4294967298".toList, isdigit c = true := List.all_eq_true.1 rfl
  have big : Denotes "4294967298".toList 4294967298 :=
    ⟨⟨[], .none, "4294967298".toList, by simp, digits, by decide⟩, rfl, rfl⟩
  have inexact : ∀ parse : CString → Option Nat, parse "4294967298".toList = some 2 →
      ¬ ExactAt parse "4294967298".toList := by
    intro parse hp h
    obtain ⟨z, hz, _, hi, _⟩ := h 2 hp
    have := hz.unique big
    omega
  exact ⟨inexact _ rfl, inexact _ rfl, rfl⟩

end BeastieBoy
