import BeastieBoy.Interact.Pool
import Mathlib.Algebra.Order.Group.Multiset

/-!
# Blocks of memory

Programs that allocate. A block is its address, and `NULL` is `none`. The
allocator keeps the live blocks. What a `realloc` or a `free` of any other block
does is not defined, and neither is a read of what was never written.

`Holds R p mine`: started with the blocks `mine`, `p` gives back no other block,
does nothing undefined, and ends as `R` says with the blocks it then has. What
else is live never matters to it and stays live.
-/

namespace Interact

abbrev Address := Nat

/-- The calls of the allocator, beside a program's own. -/
inductive MemCall (Call : Type) where
  | malloc (size : Nat)
  | calloc (count size : Nat)
  | realloc (block : Option Address) (size : Nat)
  | free (block : Option Address)
  | undefined
  | own (c : Call)

variable {Call : Type} {Reply : Call → Type} {α β : Type}

abbrev MemReply (Reply : Call → Type) : MemCall Call → Type
  | .malloc _ => Option Address
  | .calloc .. => Option Address
  | .realloc .. => Option Address
  | .free _ => Unit
  | .undefined => Unit
  | .own c => Reply c

/-- The block a call gives back, for another one or for good. -/
def MemCall.givesBack : MemCall Call → Option Address
  | .realloc block _ => block
  | .free block => block
  | _ => none

structure MemCall.Allowed (c : MemCall Call) (live : Multiset Address) : Prop where
  isDefined : c ≠ .undefined
  isLive : ∀ b, c.givesBack = some b → b ∈ live

/-- The block at a pointer, if there is one. -/
def blockAt (block : Option Address) : Multiset Address := block.toList

@[simp] theorem blockAt_none : blockAt none = 0 := rfl

@[simp] theorem blockAt_some (b : Address) : blockAt (some b) = {b} := rfl

/-- What an allocation in place of `block` leaves live: everything, if it failed. -/
def Granted (live : Multiset Address) (block : Option Address) :
    Option Address → Multiset Address → Prop
  | none, live' => live' = live
  | some p, live' => p ∉ live - blockAt block ∧ live' = p ::ₘ (live - blockAt block)

/-- What is live behind a call. -/
def Behind (live : Multiset Address) : (c : MemCall Call) → MemReply Reply c → Multiset Address →
    Prop
  | .malloc _, r, live' => Granted live none r live'
  | .calloc .., r, live' => Granted live none r live'
  | .realloc block _, r, live' => Granted live block r live'
  | .free block, _, live' => live' = live - blockAt block
  | .undefined, _, _ => True
  | .own _, _, live' => live' = live

/-- A call that is not allowed may do anything. -/
def allocator : Server (MemCall Call) (MemReply Reply) (Multiset Address) :=
  fun live c r live' => c.Allowed live → Behind live c r live'

/-! ## What a program holds -/

namespace Prog

def Holds (R : α → Multiset Address → Prop) :
    Prog (MemCall Call) (MemReply Reply) α → Multiset Address → Prop
  | done a, mine => R a mine
  | call c next, mine => c.Allowed mine ∧ ∀ r mine', Behind mine c r mine' → (next r).Holds R mine'

variable {R : α → Multiset Address → Prop} {p : Prog (MemCall Call) (MemReply Reply) α}
    {mine : Multiset Address}

theorem Holds.bind {T : β → Multiset Address → Prop}
    {f : α → Prog (MemCall Call) (MemReply Reply) β}
    (h : p.Holds R mine) (hf : ∀ a mine', R a mine' → (f a).Holds T mine') :
    (p >>= f).Holds T mine := by
  induction p generalizing mine with
  | done a => exact hf a mine h
  | call c next ih => exact ⟨h.1, fun r mine' behind => ih r (h.2 r mine' behind)⟩

theorem Holds.mono {T : α → Multiset Address → Prop} (h : p.Holds R mine)
    (weaker : ∀ a mine', R a mine' → T a mine') :
    p.Holds T mine := by
  induction p generalizing mine with
  | done a => exact weaker a mine h
  | call c next ih => exact ⟨h.1, fun r mine' behind => ih r (h.2 r mine' behind)⟩

end Prog

/-! ## Other blocks -/

theorem blockAt_le {c : MemCall Call} {mine : Multiset Address} (allowed : c.Allowed mine) :
    blockAt c.givesBack ≤ mine := by
  cases given : c.givesBack with
  | none => exact Multiset.zero_le _
  | some b => exact Multiset.singleton_le.2 (allowed.isLive b given)

theorem MemCall.Allowed.mono {c : MemCall Call} {mine others : Multiset Address}
    (allowed : c.Allowed mine) :
    c.Allowed (mine + others) :=
  ⟨allowed.isDefined, fun b given => Multiset.mem_add.2 (.inl (allowed.isLive b given))⟩

/-- Without a block of `mine`, the others are all there. -/
theorem sub_blockAt_add {mine others : Multiset Address} {block : Option Address}
    (le : blockAt block ≤ mine) :
    mine + others - blockAt block = mine - blockAt block + others := by
  rw [add_comm mine, Multiset.add_sub_assoc le, add_comm]

theorem granted_of_add {mine others live' : Multiset Address} {block : Option Address}
    (le : blockAt block ≤ mine)
    {r : Option Address} (granted : Granted (mine + others) block r live') :
    ∃ mine', live' = mine' + others ∧ Granted mine block r mine' := by
  cases r with
  | none => exact ⟨mine, granted, rfl⟩
  | some p =>
    obtain ⟨fresh, rfl⟩ := granted
    rw [sub_blockAt_add le] at fresh ⊢
    refine ⟨p ::ₘ (mine - blockAt block), (Multiset.cons_add ..).symm, ?_, rfl⟩
    exact fun there => fresh (Multiset.mem_add.2 (.inl there))

/-- A call that is allowed with the own blocks leaves the others alone. -/
theorem behind_of_add {mine others live' : Multiset Address} {c : MemCall Call}
    {r : MemReply Reply c} (allowed : c.Allowed mine) (behind : Behind (mine + others) c r live') :
    ∃ mine', live' = mine' + others ∧ Behind mine c r mine' := by
  have le := blockAt_le allowed
  cases c with
  | malloc size => exact granted_of_add (Multiset.zero_le _) behind
  | calloc count size => exact granted_of_add (Multiset.zero_le _) behind
  | realloc block size => exact granted_of_add le behind
  | free block =>
    refine ⟨mine - blockAt block, ?_, rfl⟩
    rw [behind]
    exact sub_blockAt_add le
  | undefined => exact absurd rfl allowed.isDefined
  | own c => exact ⟨mine, behind, rfl⟩

theorem Behind.nodup {live live' : Multiset Address} {c : MemCall Call} {r : MemReply Reply c}
    (behind : Behind live c r live') (isDefined : c ≠ .undefined) (distinct : live.Nodup) :
    live'.Nodup := by
  have granted {block : Option Address} {r : Option Address} (h : Granted live block r live') :
      live'.Nodup := by
    cases r with
    | none => exact h ▸ distinct
    | some p =>
      obtain ⟨fresh, rfl⟩ := h
      exact Multiset.nodup_cons.2 ⟨fresh, Multiset.nodup_of_le (Multiset.sub_le_self _ _) distinct⟩
  cases c with
  | malloc size => exact granted behind
  | calloc count size => exact granted behind
  | realloc block size => exact granted behind
  | free block => exact behind ▸ Multiset.nodup_of_le (Multiset.sub_le_self _ _) distinct
  | undefined => exact absurd rfl isDefined
  | own c => exact behind ▸ distinct

namespace Prog.Holds
variable {R : α → Multiset Address → Prop} {p : Prog (MemCall Call) (MemReply Reply) α}
  {mine others live live' : Multiset Address} {tr : List (Event (MemReply Reply))}

/-- A program that needs `mine` can be given more. -/
theorem frame (h : p.Holds R mine) (others : Multiset Address) :
    p.Holds (fun a live => ∃ mine', live = mine' + others ∧ R a mine') (mine + others) := by
  induction p generalizing mine with
  | done a => exact ⟨mine, rfl, h⟩
  | call c next ih =>
    refine ⟨h.1.mono, fun r live' behind => ?_⟩
    obtain ⟨mine', rfl, behind'⟩ := behind_of_add h.1 behind
    exact ih r (h.2 r mine' behind')

/-- No block is live twice. -/
theorem nodup (h : p.Holds R mine) (run : Begins p tr)
    (served : Serves allocator (mine + others) tr live)
    (distinct : (mine + others).Nodup) : live.Nodup := by
  induction run generalizing mine with
  | start p =>
    rw [serves_nil_iff] at served
    exact served ▸ distinct
  | call _ ih =>
    obtain ⟨live₁, step, rest⟩ := serves_cons_iff.1 served
    have behind := step h.1.mono
    obtain ⟨mine₁, rfl, behind'⟩ := behind_of_add h.1 behind
    exact ih (h.2 _ mine₁ behind') rest (behind.nodup h.1.isDefined distinct)

theorem allowed {e : Event (MemReply Reply)} (h : p.Holds R mine) (run : Begins p (tr ++ [e]))
    (served : Serves allocator (mine + others) tr live) :
    ∃ mine', live = mine' + others ∧ e.call.Allowed mine' := by
  induction tr generalizing p mine with
  | nil =>
    rw [serves_nil_iff] at served
    cases run with
    | call _ => exact ⟨mine, served, h.1⟩
  | cons first tr ih =>
    obtain ⟨live₁, step, rest⟩ := serves_cons_iff.1 served
    cases run with
    | call run =>
      obtain ⟨mine₁, rfl, behind⟩ := behind_of_add h.1 (step h.1.mono)
      exact ih (h.2 _ mine₁ behind) run rest

theorem ends {a : α} (h : p.Holds R mine) (run : Follows p tr a)
    (served : Serves allocator (mine + others) tr live) :
    ∃ mine', live = mine' + others ∧ R a mine' := by
  induction run generalizing mine with
  | done a =>
    rw [serves_nil_iff] at served
    exact ⟨mine, served, h⟩
  | call _ ih =>
    obtain ⟨live₁, step, rest⟩ := serves_cons_iff.1 served
    obtain ⟨mine₁, rfl, behind⟩ := behind_of_add h.1 (step h.1.mono)
    exact ih (h.2 _ mine₁ behind) rest

end Prog.Holds

/-! ## The allocator's calls -/

abbrev MemProg (Reply : Call → Type) := Prog (MemCall Call) (MemReply Reply)

section
variable {mine : Multiset Address}

theorem holds_malloc (size : Nat) :
    Prog.Holds (fun r mine' => mine' = blockAt r + mine)
      (Prog.request (.malloc size) : MemProg Reply _) mine := by
  refine ⟨⟨nofun, nofun⟩, fun r mine' granted => ?_⟩
  cases r with
  | none => exact granted.trans (zero_add _).symm
  | some p => exact granted.2.trans (by simp)

theorem holds_calloc (count size : Nat) :
    Prog.Holds (fun r mine' => mine' = blockAt r + mine)
      (Prog.request (.calloc count size) : MemProg Reply _) mine := by
  refine ⟨⟨nofun, nofun⟩, fun r mine' granted => ?_⟩
  cases r with
  | none => exact granted.trans (zero_add _).symm
  | some p => exact granted.2.trans (by simp)

/-- The block is another one, or what it was. -/
theorem holds_realloc (block : Option Address) (size : Nat) :
    Prog.Holds (fun (r : Option Address) mine' => mine' = blockAt (r.or block) + mine)
      (Prog.request (.realloc block size) : MemProg Reply _) (blockAt block + mine) := by
  refine ⟨⟨nofun, fun b given => ?_⟩, fun r mine' granted => ?_⟩
  · obtain rfl : block = some b := given
    simp
  · cases r with
    | none => exact granted
    | some p => exact granted.2.trans (by simp)

theorem holds_free (block : Option Address) :
    Prog.Holds (fun _ mine' => mine' = mine)
      (Prog.request (.free block) : MemProg Reply _) (blockAt block + mine) := by
  refine ⟨⟨nofun, fun b given => ?_⟩, fun _ mine' gone => ?_⟩
  · obtain rfl : block = some b := given
    simp
  · exact gone.trans (add_tsub_cancel_left _ _)

end

/-! ## An allocator that answers -/

/-- An allocator that counts its blocks, and whose next allocations fail if told so. -/
structure CountingAllocator where
  live : List Address
  next : Address
  failures : List Bool

namespace CountingAllocator

def shown (m : CountingAllocator) : Multiset Address := m.live

/-- A block in place of another; `none` when the address is taken. -/
def grant (m : CountingAllocator) (block : Option Address) :
    Option (Option Address × CountingAllocator) :=
  match m.failures with
  | true :: failures => some (none, { m with failures := failures })
  | _ =>
    if m.next ∈ m.live then none
    else some (some m.next, ⟨m.next :: m.live.diff block.toList, m.next + 1, m.failures.tail⟩)

def answer (own : (c : Call) → Option (Reply c)) (m : CountingAllocator) :
    (c : MemCall Call) → Option (MemReply Reply c × CountingAllocator)
  | .malloc _ => m.grant none
  | .calloc .. => m.grant none
  | .realloc block _ => m.grant block
  | .free block => some ((), { m with live := m.live.diff block.toList })
  | .undefined => none
  | .own c => (own c).map fun r => (r, m)

theorem granted_of_grant {m m' : CountingAllocator} {block r : Option Address}
    (h : m.grant block = some (r, m')) :
    Granted m.shown block r m'.shown := by
  unfold grant at h
  split at h
  · simp only [Option.some.injEq, Prod.mk.injEq] at h
    obtain ⟨rfl, rfl⟩ := h
    rfl
  · split at h
    · cases h
    · rename_i fresh
      simp only [Option.some.injEq, Prod.mk.injEq] at h
      obtain ⟨rfl, rfl⟩ := h
      refine ⟨fun there => fresh ?_, ?_⟩
      · exact Multiset.mem_of_le (Multiset.sub_le_self m.shown _) there
      · simp [shown, blockAt]

/-- Its replies are replies of the allocator. -/
theorem allocator_answer (own : (c : Call) → Option (Reply c)) (m : CountingAllocator)
    (c : MemCall Call)
    (r : MemReply Reply c) (m' : CountingAllocator) (h : m.answer own c = some (r, m')) :
    allocator m.shown c r m'.shown := by
  intro _
  cases c with
  | malloc size => exact granted_of_grant h
  | calloc count size => exact granted_of_grant h
  | realloc block size => exact granted_of_grant h
  | free block =>
    simp only [answer, Option.some.injEq, Prod.mk.injEq] at h
    obtain ⟨_, rfl⟩ := h
    simp [Behind, shown, blockAt]
  | undefined => cases h
  | own c =>
    obtain ⟨_, _, same⟩ := Option.map_eq_some_iff.1 h
    cases same
    rfl

end CountingAllocator

end Interact
