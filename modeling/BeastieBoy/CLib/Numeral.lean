import Mathlib.Data.List.TakeWhile
import Mathlib.Algebra.Order.Ring.Int
import Mathlib.Tactic.Ring

/-!
# Decimal numerals and `strtoul`

A C string is the list of its characters before the terminating NUL. A
`Numeral` is what `strtoul` in base ten reads: white space, a sign, digits.
`strtoul` is total, so what a caller may trust is stated against the numeral:
`strtoul_text` gives the result on a numeral's text, `strtoul_complete` says
that only a numeral is read to its end.
-/

namespace CLib

abbrev CString := List Char

/-- `isspace` in the C locale. -/
def isspace (c : Char) : Bool := c ∈ [' ', '\t', '\n', '\x0b', '\x0c', '\r']

def isdigit (c : Char) : Bool := '0' ≤ c && c ≤ '9'

/-- The value of a digit string, most significant digit first. -/
def decimal (ds : List Char) : Nat := ds.foldl (fun n c => 10 * n + (c.toNat - '0'.toNat)) 0

/-- The optional sign: whether it is a minus, and what follows it. -/
def splitSign : CString → Bool × CString
  | '-' :: s => (true, s)
  | '+' :: s => (false, s)
  | s => (false, s)

/-- `unsigned long` has 64 bits. A magnitude out of range gives `ULONG_MAX`,
whatever the sign; otherwise a minus negates modulo `2 ^ 64`. -/
def toULong (negative : Bool) (n : Nat) : Nat :=
  if 2 ^ 64 ≤ n then 2 ^ 64 - 1 else if negative then (2 ^ 64 - n) % 2 ^ 64 else n

/-- `strtoul(s, &end, 10)`: the value and the string at `end`. With no digits
nothing is converted and `end` is `s`. -/
def strtoul (s : CString) : Nat × CString :=
  let signed := splitSign (s.dropWhile isspace)
  let digits := signed.2.takeWhile isdigit
  if digits = [] then (0, s) else (toULong signed.1 (decimal digits), signed.2.dropWhile isdigit)

inductive Sign where
  | none
  | plus
  | minus
  deriving DecidableEq

def Sign.text : Sign → CString
  | .none => []
  | .plus => ['+']
  | .minus => ['-']

/-- Optional white space, an optional sign and at least one decimal digit. -/
structure Numeral where
  blanks : CString
  sign : Sign
  digits : CString
  blanks_space : ∀ c ∈ blanks, isspace c = true
  digits_digit : ∀ c ∈ digits, isdigit c = true
  digits_ne : digits ≠ []

namespace Numeral

def text (n : Numeral) : CString := n.blanks ++ (n.sign.text ++ n.digits)

/-- The integer the numeral denotes. -/
def value (n : Numeral) : ℤ :=
  if n.sign = .minus then -(decimal n.digits : ℤ) else decimal n.digits

def toULong (n : Numeral) : Nat := CLib.toULong (n.sign = .minus) (decimal n.digits)

end Numeral

/-- `s` denotes the integer `z`. -/
def Denotes (s : CString) (z : ℤ) : Prop := ∃ n : Numeral, n.text = s ∧ n.value = z

theorem isspace_of_isdigit {c : Char} (h : isdigit c = true) : isspace c = false := by
  cases hs : isspace c
  · rfl
  · simp only [isspace, List.mem_cons, List.not_mem_nil, or_false, decide_eq_true_eq] at hs
    rcases hs with rfl | rfl | rfl | rfl | rfl | rfl <;> revert h <;> decide

theorem not_isdigit_plus : isdigit '+' = false := by decide

theorem not_isdigit_minus : isdigit '-' = false := by decide

theorem splitSign_digit {c : Char} {s : CString} (h : isdigit c = true) :
    splitSign (c :: s) = (false, c :: s) := by
  unfold splitSign
  split
  · rename_i heq; injection heq with hc _; subst hc; simp [not_isdigit_minus] at h
  · rename_i heq; injection heq with hc _; subst hc; simp [not_isdigit_plus] at h
  · rfl

namespace Numeral

/-- Behind the white space the text starts with the sign or a digit. -/
theorem dropWhile_text (n : Numeral) (tail : CString) :
    (n.text ++ tail).dropWhile isspace = n.sign.text ++ (n.digits ++ tail) := by
  have head : (n.sign.text ++ (n.digits ++ tail)).dropWhile isspace =
      n.sign.text ++ (n.digits ++ tail) := by
    obtain ⟨c, ds, hds⟩ := List.exists_cons_of_ne_nil n.digits_ne
    have hc : isspace c = false := isspace_of_isdigit (n.digits_digit c (by simp [hds]))
    cases n.sign with
    | none => simp [Sign.text, hds, hc]
    | plus => rfl
    | minus => rfl
  simp only [text, List.append_assoc]
  rw [List.dropWhile_append_of_pos n.blanks_space, head]

theorem splitSign_text (n : Numeral) (tail : CString) :
    splitSign ((n.text ++ tail).dropWhile isspace) =
      (decide (n.sign = .minus), n.digits ++ tail) := by
  rw [dropWhile_text]
  cases hs : n.sign with
  | none =>
    obtain ⟨c, ds, hds⟩ := List.exists_cons_of_ne_nil n.digits_ne
    rw [hds]
    exact splitSign_digit (n.digits_digit c (by simp [hds]))
  | plus => rfl
  | minus => rfl

/-- A numeral's text can be read in one way only. -/
theorem value_unique {n m : Numeral} (h : n.text = m.text) : n.value = m.value := by
  have hn := n.splitSign_text []
  have hm := m.splitSign_text []
  rw [h, hm] at hn
  simp only [List.append_nil, Prod.mk.injEq, decide_eq_decide] at hn
  simp only [value, hn.1, hn.2]

end Numeral

theorem Denotes.unique {s : CString} {y z : ℤ} (hy : Denotes s y) (hz : Denotes s z) : y = z := by
  obtain ⟨n, hn, rfl⟩ := hy
  obtain ⟨m, hm, rfl⟩ := hz
  exact Numeral.value_unique (hn.trans hm.symm)

/-- A numeral followed by anything but a digit is read up to its end. -/
theorem strtoul_text (n : Numeral) (tail : CString) (stop : ∀ c ∈ tail.head?, isdigit c = false) :
    strtoul (n.text ++ tail) = (n.toULong, tail) := by
  have halt : tail.takeWhile isdigit = [] ∧ tail.dropWhile isdigit = tail := by
    cases tail with
    | nil => exact ⟨rfl, rfl⟩
    | cons c t => simp [stop c (by simp)]
  have taken : (n.digits ++ tail).takeWhile isdigit = n.digits := by
    rw [List.takeWhile_append_of_pos n.digits_digit, halt.1, List.append_nil]
  have dropped : (n.digits ++ tail).dropWhile isdigit = tail := by
    rw [List.dropWhile_append_of_pos n.digits_digit, halt.2]
  simp only [strtoul, n.splitSign_text, taken, dropped, n.digits_ne, ↓reduceIte, Numeral.toULong]

/-- What `strtoul` reads to the very end is a numeral. -/
theorem strtoul_complete {s : CString} (hs : (strtoul s).2 = []) (hne : s ≠ []) :
    ∃ n : Numeral, n.text = s := by
  simp only [strtoul] at hs
  split at hs
  · exact absurd hs hne
  · rename_i hd
    simp only at hs
    have spaces := List.takeWhile_append_dropWhile (p := isspace) (l := s)
    have digits :=
      List.takeWhile_append_dropWhile (p := isdigit) (l := (splitSign (s.dropWhile isspace)).2)
    rw [hs, List.append_nil] at digits
    obtain ⟨sign, hsign⟩ : ∃ sign : Sign,
        s.dropWhile isspace = sign.text ++ (splitSign (s.dropWhile isspace)).2 := by
      generalize s.dropWhile isspace = t
      unfold splitSign
      split
      · exact ⟨.minus, rfl⟩
      · exact ⟨.plus, rfl⟩
      · exact ⟨.none, rfl⟩
    refine ⟨⟨s.takeWhile isspace, sign, _, ?_, ?_, hd⟩, ?_⟩
    · exact fun c hc => List.mem_takeWhile_imp hc
    · exact fun c hc => List.mem_takeWhile_imp hc
    · simp only [Numeral.text]
      rw [digits, ← hsign, spaces]

/-- The test every parser makes: something was read and nothing is left. -/
theorem strtoul_accepts_iff (s : CString) :
    (s ≠ [] ∧ (strtoul s).2 ≠ s ∧ (strtoul s).2 = []) ↔ ∃ n : Numeral, n.text = s := by
  constructor
  · rintro ⟨hne, _, hend⟩; exact strtoul_complete hend hne
  · rintro ⟨n, rfl⟩
    have h := strtoul_text n [] (by simp)
    rw [List.append_nil] at h
    have hne : n.text ≠ [] := by simp [Numeral.text, n.digits_ne]
    rw [h]
    exact ⟨hne, hne.symm, rfl⟩

theorem strtoul_numeral (n : Numeral) : strtoul n.text = (n.toULong, []) := by
  simpa using strtoul_text n [] (by simp)

/-! ## Printed numbers -/

theorem isdigit_of_mem_toDigits {n : Nat} {c : Char} (h : c ∈ Nat.toDigits 10 n) :
    isdigit c = true :=
  Nat.isDigit_of_mem_toDigits (by decide) (by decide) h

theorem decimal_toDigits (n : Nat) : decimal (Nat.toDigits 10 n) = n :=
  Nat.ofDigitChars_ten_toDigits

theorem isspace_of_mem_replicate {k : Nat} {c : Char} (h : c ∈ List.replicate k ' ') :
    isspace c = true := by
  rw [List.eq_of_mem_replicate h]
  rfl

theorem isdigit_of_mem_zeros_append {k n : Nat} {c : Char}
    (h : c ∈ List.replicate k '0' ++ Nat.toDigits 10 n) :
    isdigit c = true := by
  rcases List.mem_append.mp h with zero | digit
  · rw [List.eq_of_mem_replicate zero]
    rfl
  · exact isdigit_of_mem_toDigits digit

theorem zeros_append_ne (k n : Nat) : List.replicate k '0' ++ Nat.toDigits 10 n ≠ [] := by
  simp [Nat.toDigits_ne_nil]

/-- Spaces, leading zeros and the decimal text of `n`. -/
def Numeral.printed (spaces zeros n : Nat) : Numeral where
  blanks := List.replicate spaces ' '
  sign := .none
  digits := List.replicate zeros '0' ++ Nat.toDigits 10 n
  blanks_space := fun _ h => isspace_of_mem_replicate h
  digits_digit := fun _ h => isdigit_of_mem_zeros_append h
  digits_ne := zeros_append_ne zeros n

theorem decimal_zeros_append (k : Nat) (ds : List Char) :
    decimal (List.replicate k '0' ++ ds) = decimal ds := by
  have zeros : decimal (List.replicate k '0') = 0 := by
    have power : decimal (List.replicate k '0') = 10 ^ k * 0 := Nat.ofDigitChars_replicate_zero
    omega
  rw [decimal, List.foldl_append]
  exact congrArg (fun n => ds.foldl _ n) zeros

theorem Numeral.toULong_printed (spaces zeros : Nat) {n : Nat} (fits : n < 2 ^ 64) :
    (Numeral.printed spaces zeros n).toULong = n := by
  have value : decimal (List.replicate zeros '0' ++ Nat.toDigits 10 n) = n := by
    rw [decimal_zeros_append, decimal_toDigits]
  have unsigned : CLib.toULong false n = n := if_neg (by omega)
  rw [← value] at unsigned
  exact unsigned.trans value

theorem toDigits_injective {m n : Nat} (h : Nat.toDigits 10 m = Nat.toDigits 10 n) : m = n := by
  rw [← decimal_toDigits m, h, decimal_toDigits]

end CLib
