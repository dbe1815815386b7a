import BeastieBoy.TableMemory

/-!
# The arithmetic of growing

A table asks for room for one entry more than it has. The block it holds was
granted, so it is shorter than 2^63 bytes, and twice its capacity still fits.
-/

namespace BeastieBoy

open CLib Interact Interact.Prog

/-! ## What a call computes -/

/-- The capacity the doubling starts from. -/
abbrev startCapacity (capacity : Nat) : Nat := if capacity = 0 then 8 else capacity * 2 % 2 ^ 64

/-- The products of the `while` loop, before they are cut to 64 bits. -/
def doubleProducts (requiredCount : Nat) : Nat → Nat → List Nat
  | 0, _ => []
  | turns + 1, newCapacity =>
    if newCapacity < requiredCount then
      newCapacity * 2 :: doubleProducts requiredCount turns (newCapacity * 2 % 2 ^ 64)
    else []

/-- All products of a call, before they are cut to 64 bits. -/
def reserveProducts (capacity itemSize requiredCount : Nat) : List Nat :=
  if capacity ≥ requiredCount then []
  else
    (if capacity = 0 then [] else [capacity * 2]) ++
    doubleProducts requiredCount 65 (startCapacity capacity) ++
    ((doubleUntil requiredCount 65 (startCapacity capacity)).map (· * itemSize)).toList

/-! ## What the allocator grants -/

def grantedSize : BoyEvent → Option Nat
  | ⟨.realloc size, true⟩ => some size
  | _ => none

/-- The block a table holds behind the calls of `tr`, which found it with `block`. -/
def blockAfter (block : Nat) (tr : List BoyEvent) : Nat :=
  (tr.filterMap grantedSize).getLast?.getD block

/-- No more than 2^63-1 bytes are ever granted. -/
def GrantsBelow (tr : List BoyEvent) : Prop := ∀ size ∈ tr.filterMap grantedSize, size < 2 ^ 63

/-- A table that was empty, behind any calls for one entry more: its count, its
capacity, and the size of its block. Behind a call that succeeds the entry need
not be counted (`app_table_add_row` may still find no memory for its cells). -/
inductive Growing (reserveOne : Nat → Nat → Boy (Int × Nat)) : Nat → Nat → Nat → Prop
  | empty : Growing reserveOne 0 0 0
  | call {count capacity block : Nat} {tr : List BoyEvent} {rc : Int} {capacity' count' : Nat}
      (before : Growing reserveOne count capacity block)
      (run : Follows (reserveOne capacity (count + 1)) tr (rc, capacity'))
      (granted : GrantsBelow tr)
      (counted : count' = count ∨ rc = 0 ∧ count' = count + 1) :
      Growing reserveOne count' capacity' (blockAfter block tr)

/-- Nothing overflows, the doubling ends, and a call that succeeds leaves a block
of whole entries with the next one inside, in every table that grows so. -/
def GrowsSafely (itemSize : Nat) (reserveOne : Nat → Nat → Boy (Int × Nat)) : Prop :=
  ∀ count capacity block, Growing reserveOne count capacity block →
    (∀ p ∈ reserveProducts capacity itemSize (count + 1), p < 2 ^ 64) ∧
    (doubleUntil (count + 1) 65 (startCapacity capacity)).isSome = true ∧
    ∀ tr capacity', GrantsBelow tr → Follows (reserveOne capacity (count + 1)) tr (0, capacity') →
      blockAfter block tr = capacity' * itemSize ∧ count + 1 ≤ capacity' ∧
        count * itemSize + itemSize ≤ blockAfter block tr

/-- What every such table keeps to. -/
structure WithinBlock (itemSize count capacity block : Nat) : Prop where
  room : count ≤ capacity
  size : block = capacity * itemSize
  granted : block < 2 ^ 63

section
variable {itemSize count capacity block : Nat} (positive : 0 < itemSize)
    (small : 8 * itemSize < 2 ^ 64)
include positive

theorem WithinBlock.capacity_lt (h : WithinBlock itemSize count capacity block) :
    capacity < 2 ^ 63 :=
  calc capacity ≤ capacity * itemSize := Nat.le_mul_of_pos_right capacity positive
    _ = block := h.size.symm
    _ < 2 ^ 63 := h.granted

/-- Twice the capacity is enough, and is what the code computes. -/
theorem WithinBlock.start (h : WithinBlock itemSize count capacity block) :
    startCapacity capacity = (if capacity = 0 then 8 else capacity * 2) ∧
    count + 1 ≤ startCapacity capacity := by
  have bound := h.capacity_lt positive
  have room := h.room
  unfold startCapacity
  split
  · exact ⟨rfl, by omega⟩
  · rw [Nat.mod_eq_of_lt (by omega)]
    exact ⟨rfl, by omega⟩

theorem WithinBlock.doubled (h : WithinBlock itemSize count capacity block) :
    doubleUntil (count + 1) 65 (startCapacity capacity) = some (startCapacity capacity) := by
  rw [doubleUntil, if_neg (Nat.not_lt.2 (h.start positive).2)]

include small

theorem WithinBlock.start_mul_lt (h : WithinBlock itemSize count capacity block) :
    startCapacity capacity * itemSize < 2 ^ 64 := by
  rw [(h.start positive).1]
  split
  · exact small
  · have size := h.size
    have granted := h.granted
    have twice : capacity * 2 * itemSize = 2 * (capacity * itemSize) := by ring
    omega

/-- No product of the call wraps. -/
theorem WithinBlock.products (h : WithinBlock itemSize count capacity block) :
    ∀ p ∈ reserveProducts capacity itemSize (count + 1), p < 2 ^ 64 := by
  have bound := h.capacity_lt positive
  have none_doubled : doubleProducts (count + 1) 65 (startCapacity capacity) = [] := by
    rw [doubleProducts, if_neg (Nat.not_lt.2 (h.start positive).2)]
  intro p hp
  unfold reserveProducts at hp
  rw [none_doubled, h.doubled positive] at hp
  split at hp
  · cases hp
  · rcases List.mem_append.1 hp with hp | hp
    · split at hp
      · cases hp
      · obtain rfl : p = capacity * 2 := by simpa using hp
        omega
    · obtain rfl : p = startCapacity capacity * itemSize := by simpa using hp
      exact h.start_mul_lt positive small

/-- What one call does. -/
theorem WithinBlock.reserve (h : WithinBlock itemSize count capacity block) {tr : List BoyEvent}
    {rc : Int}
    {capacity' : Nat} (run : Follows (BeastieBoy.reserve capacity itemSize (count + 1)) tr
      (rc, capacity'))
    (granted : GrantsBelow tr) :
    rc = 0 ∧ WithinBlock itemSize (count + 1) capacity' (blockAfter block tr) ∨
      rc = -1 ∧ WithinBlock itemSize count capacity' (blockAfter block tr) := by
  unfold BeastieBoy.reserve at run
  split at run
  · rename_i enough
    obtain ⟨rfl, same⟩ := follows_done_iff.1 run
    cases same
    exact .inl ⟨rfl, enough, h.size, h.granted⟩
  · rw [h.doubled positive] at run
    obtain ⟨yes, t, rfl, ending⟩ := follows_call_bind run
    cases yes with
    | false =>
      obtain ⟨rfl, same⟩ := follows_done_iff.1 ending
      cases same
      exact .inr ⟨rfl, h⟩
    | true =>
      obtain ⟨rfl, same⟩ := follows_done_iff.1 ending
      cases same
      rw [Nat.mod_eq_of_lt (h.start_mul_lt positive small)] at granted ⊢
      exact .inl ⟨rfl, (h.start positive).2, rfl, granted _ List.mem_cons_self⟩

/-- Every call keeps to it. -/
theorem Growing.within
    (h : Growing (fun capacity requiredCount => BeastieBoy.reserve capacity itemSize requiredCount)
      count capacity block) : WithinBlock itemSize count capacity block := by
  induction h with
  | empty => exact ⟨Nat.le_refl 0, (Nat.zero_mul itemSize).symm, by decide⟩
  | call before run granted counted ih =>
    rcases ih.reserve positive small run granted with ⟨_, within⟩ | ⟨rfl, within⟩
    · rcases counted with rfl | ⟨_, rfl⟩
      · exact ⟨Nat.le_of_succ_le within.room, within.size, within.granted⟩
      · exact within
    · rcases counted with rfl | ⟨zero, _⟩
      · exact within
      · cases zero

end

theorem grows_safely {itemSize : Nat} (positive : 0 < itemSize) (small : 8 * itemSize < 2 ^ 64) :
    GrowsSafely itemSize fun capacity requiredCount => reserve capacity itemSize requiredCount := by
  intro count capacity block h
  have within := h.within positive small
  refine ⟨within.products positive small, ?_, ?_⟩
  · rw [within.doubled positive]
    rfl
  · intro tr capacity' granted run
    rcases within.reserve positive small run granted with ⟨_, after⟩ | ⟨zero, _⟩
    · refine ⟨after.size, after.room, ?_⟩
      calc count * itemSize + itemSize = (count + 1) * itemSize :=
        (Nat.succ_mul count itemSize).symm
        _ ≤ capacity' * itemSize := Nat.mul_le_mul_right itemSize after.room
        _ = blockAfter block tr := after.size.symm
    · cases zero

/-- **Growing never overflows**, whatever the size of an entry, as long as eight
of them can be addressed. -/
theorem reserving_safe :
    (∀ itemSize, 0 < itemSize → 8 * itemSize < 2 ^ 64 →
      GrowsSafely itemSize fun capacity requiredCount =>
        boyReserveEntries capacity itemSize requiredCount) ∧
    GrowsSafely sizeofAppTableRow appTableReserveRows :=
  ⟨fun _ positive small => grows_safely positive small, grows_safely (by decide) (by decide)⟩

def interfaceReserve (capacity requiredCount : Nat) : Boy (Int × Nat) :=
  boyReserveEntries capacity sizeofBoyInterfaceEntry requiredCount

theorem grantsBelow_one {size : Nat} (small : size < 2 ^ 63) :
    GrantsBelow [⟨.realloc size, true⟩] := by
  intro size' granted
  obtain rfl : size' = size := List.mem_singleton.1 granted
  exact small

/-- The room the first entry asked for is there for seven more. -/
theorem eight_interfaces {n : Nat} (few : n < 8) :
    Growing interfaceReserve (n + 1) 8 (8 * 236) := by
  induction n with
  | zero =>
    have run : Follows (interfaceReserve 0 1) [⟨.realloc (8 * 236), true⟩] (0, 8) := .call (.done _)
    have first : Growing interfaceReserve 1 8 (blockAfter 0 [⟨.realloc (8 * 236), true⟩]) :=
      .call .empty run (grantsBelow_one (by decide)) (.inr ⟨rfl, rfl⟩)
    exact first
  | succ n ih =>
    have run : Follows (interfaceReserve 8 (n + 1 + 1)) [] (0, 8) := by
      rw [interfaceReserve, boyReserveEntries, reserve, if_pos (Nat.succ_le_of_lt few)]
      exact .done _
    have next : Growing interfaceReserve (n + 1 + 1) 8 (blockAfter (8 * 236) []) :=
      .call (ih (Nat.lt_of_succ_lt few)) run (by simp [GrantsBelow]) (.inr ⟨rfl, rfl⟩)
    exact next

/-- The ninth entry asks for sixteen. -/
theorem ninth_interface :
    reserveProducts 8 sizeofBoyInterfaceEntry 9 = [16, 16 * 236] ∧
      (∀ p ∈ reserveProducts 8 sizeofBoyInterfaceEntry 9, p < 2 ^ 64) ∧
      ∃ tr, Follows (interfaceReserve 8 9) tr (0, 16) ∧
        blockAfter (8 * 236) tr = 16 * sizeofBoyInterfaceEntry := by
  have eight : Growing interfaceReserve 8 8 (8 * 236) := eight_interfaces (by decide)
  have safe := reserving_safe.1 sizeofBoyInterfaceEntry (by decide) (by decide) _ _ _ eight
  have run : Follows (interfaceReserve 8 9) [⟨.realloc (16 * 236), true⟩] (0, 16) := .call (.done _)
  refine ⟨by decide, safe.1, _, run, ?_⟩
  exact (safe.2.2 _ _ (grantsBelow_one (by decide)) run).1

end BeastieBoy
