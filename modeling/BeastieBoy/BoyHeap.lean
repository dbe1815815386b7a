import BeastieBoy.Interact.Blocks
import BeastieBoy.TableMemory
import Mathlib.Algebra.Order.BigOperators.Group.Multiset

/-!
# `boy` on the heap

`boy` with an allocator that gives out blocks, where `Boy` only says whether
there was memory. `Forgets` relates a program to the same one without addresses,
which does not free anything.
-/

namespace BeastieBoy

open CLib Interact Interact.Prog

abbrev OnHeap := Prog (MemCall BoyCall) (MemReply BoyReply)

abbrev memCall (c : MemCall BoyCall) : OnHeap (MemReply BoyReply c) := Prog.request c

/-- The two programs make the same calls but for the addresses and `free`, and
end with answers that `R` relates. Neither does anything undefined. -/
inductive Forgets {α β : Type} (R : α → β → Prop) : OnHeap α → Boy β → Prop
  | done {a : α} {b : β} (h : R a b) : Forgets R (.done a) (.done b)
  | own {c : BoyCall} {f : BoyReply c → OnHeap α} {g : BoyReply c → Boy β}
      (rest : ∀ r, Forgets R (f r) (g r)) :
      Forgets R (.call (.own c) f) (.call c g)
  | malloc {size : Nat} {f : Option Address → OnHeap α} {g : Bool → Boy β}
      (rest : ∀ block, Forgets R (f block) (g block.isSome)) :
      Forgets R (.call (.malloc size) f) (.call (.malloc size) g)
  | calloc {count size : Nat} {f : Option Address → OnHeap α} {g : Bool → Boy β}
      (rest : ∀ block, Forgets R (f block) (g block.isSome)) :
      Forgets R (.call (.calloc count size) f) (.call (.calloc count size) g)
  | realloc {block : Option Address} {size : Nat} {f : Option Address → OnHeap α} {g : Bool → Boy β}
      (rest : ∀ block', Forgets R (f block') (g block'.isSome)) :
      Forgets R (.call (.realloc block size) f) (.call (.realloc size) g)
  | free {block : Option Address} {f : Unit → OnHeap α} {q : Boy β} (rest : Forgets R (f ()) q) :
      Forgets R (.call (.free block) f) q

namespace Forgets
variable {α β γ δ : Type} {R : α → β → Prop} {T : γ → δ → Prop} {p : OnHeap α} {q : Boy β}

theorem bind {f : α → OnHeap γ} {g : β → Boy δ} (h : Forgets R p q)
    (hf : ∀ a b, R a b → Forgets T (f a) (g b)) : Forgets T (p >>= f) (q >>= g) := by
  induction h with
  | done h => exact hf _ _ h
  | own _ ih => exact .own ih
  | malloc _ ih => exact .malloc ih
  | calloc _ ih => exact .calloc ih
  | realloc _ ih => exact .realloc ih
  | free _ ih => exact .free ih

theorem mono {R' : α → β → Prop} (h : Forgets R p q) (weaker : ∀ a b, R a b → R' a b) :
    Forgets R' p q := by
  induction h with
  | done h => exact .done (weaker _ _ h)
  | own _ ih => exact .own ih
  | malloc _ ih => exact .malloc ih
  | calloc _ ih => exact .calloc ih
  | realloc _ ih => exact .realloc ih
  | free _ ih => exact .free ih

theorem with_only {K : BoyCall → Prop} {T : β → Prop} (h : Forgets R p q) (hq : q.Only K T) :
    Forgets (fun a b => R a b ∧ T b) p q := by
  induction h with
  | done h => exact .done ⟨h, hq⟩
  | own _ ih => exact .own fun r => ih r (hq.2 r)
  | malloc _ ih => exact .malloc fun block => ih block (hq.2 block.isSome)
  | calloc _ ih => exact .calloc fun block => ih block (hq.2 block.isSome)
  | realloc _ ih => exact .realloc fun block => ih block (hq.2 block.isSome)
  | free _ ih => exact .free (ih hq)

/-- The events of a run on the heap, without the addresses. -/
def plain (tr : List (Event (MemReply BoyReply))) : List BoyEvent :=
  tr.filterMap fun
    | ⟨.malloc size, block⟩ => some ⟨.malloc size, Option.isSome block⟩
    | ⟨.calloc count size, block⟩ => some ⟨.calloc count size, Option.isSome block⟩
    | ⟨.realloc _ size, block⟩ => some ⟨.realloc size, Option.isSome block⟩
    | ⟨.own c, r⟩ => some ⟨c, r⟩
    | _ => none

/-- A run on the heap is a run of the other program. -/
theorem follows {tr : List (Event (MemReply BoyReply))} {a : α} (h : Forgets R p q)
    (run : Follows p tr a) :
    ∃ b, Follows q (plain tr) b ∧ R a b := by
  induction h generalizing tr with
  | @done a' b h =>
    obtain ⟨rfl, rfl⟩ := follows_done_iff.1 run
    exact ⟨b, .done b, h⟩
  | own _ ih =>
    obtain ⟨r, tr', rfl, rest⟩ := follows_call_iff.1 run
    obtain ⟨b, later, h⟩ := ih r rest
    exact ⟨b, .call later, h⟩
  | malloc _ ih =>
    obtain ⟨r, tr', rfl, rest⟩ := follows_call_iff.1 run
    obtain ⟨b, later, h⟩ := ih r rest
    exact ⟨b, .call later, h⟩
  | calloc _ ih =>
    obtain ⟨r, tr', rfl, rest⟩ := follows_call_iff.1 run
    obtain ⟨b, later, h⟩ := ih r rest
    exact ⟨b, .call later, h⟩
  | realloc _ ih =>
    obtain ⟨r, tr', rfl, rest⟩ := follows_call_iff.1 run
    obtain ⟨b, later, h⟩ := ih r rest
    exact ⟨b, .call later, h⟩
  | free _ ih =>
    obtain ⟨r, tr', rfl, rest⟩ := follows_call_iff.1 run
    obtain ⟨b, later, h⟩ := ih rest
    exact ⟨b, later, h⟩

/-- A program that is simulated in turn. -/
theorem simulates {γ : Type} {T : β → γ → Prop} {q' : Boy γ} (h : Forgets R p q)
    (hq : Simulates T q q') :
    Forgets (fun a c => ∃ b, R a b ∧ T b c) p q' := by
  induction h generalizing q' with
  | done h => cases hq with | done h' => exact .done ⟨_, h, h'⟩
  | own _ ih => cases hq with | call rest => exact .own fun r => ih r (rest r)
  | malloc _ ih =>
    cases hq with | call rest => exact .malloc fun block => ih block (rest block.isSome)
  | calloc _ ih =>
    cases hq with | call rest => exact .calloc fun block => ih block (rest block.isSome)
  | realloc _ ih =>
    cases hq with | call rest => exact .realloc fun block => ih block (rest block.isSome)
  | free _ ih => exact .free (ih hq)

end Forgets

/-- The allocator can always find a block, and can always refuse one. -/
theorem exists_granted (live : Multiset Address) (block : Option Address) (granted : Bool) :
    ∃ r live', Granted live block r live' ∧ r.isSome = granted := by
  cases granted with
  | false => exact ⟨none, live, rfl, rfl⟩
  | true =>
    have fresh : (live - blockAt block).sum + 1 ∉ live - blockAt block := by
      intro there
      exact absurd (Multiset.le_sum_of_mem there) (Nat.not_succ_le_self _)
    exact ⟨some _, _, ⟨fresh, rfl⟩, rfl⟩

namespace Forgets
variable {α β : Type} {R : α → β → Prop} {p : OnHeap α} {q : Boy β}

/-- Every run of the other program is a run on the heap, whatever is live. -/
theorem followed {tr : List BoyEvent} {b : β} (h : Forgets R p q) (run : Follows q tr b)
    (live : Multiset Address) :
    ∃ tr' live' a, Exec allocator p live tr' live' a ∧ plain tr' = tr ∧ R a b := by
  induction h generalizing tr live with
  | @done a b' h =>
    obtain ⟨rfl, rfl⟩ := follows_done_iff.1 run
    exact ⟨[], live, a, ⟨.done a, .nil live⟩, rfl, h⟩
  | own _ ih =>
    obtain ⟨r, tr, rfl, rest⟩ := follows_call_iff.1 run
    obtain ⟨tr', live', a, made, rfl, h⟩ := ih r rest live
    exact ⟨_, live', a, ⟨.call made.follows, .cons (fun _ => rfl) made.serves⟩, rfl, h⟩
  | malloc _ ih =>
    obtain ⟨granted, tr, rfl, rest⟩ := follows_call_iff.1 run
    obtain ⟨r, live₁, step, rfl⟩ := exists_granted live none granted
    obtain ⟨tr', live', a, made, rfl, h⟩ := ih r rest live₁
    exact ⟨_, live', a, ⟨.call made.follows, .cons (fun _ => step) made.serves⟩, rfl, h⟩
  | calloc _ ih =>
    obtain ⟨granted, tr, rfl, rest⟩ := follows_call_iff.1 run
    obtain ⟨r, live₁, step, rfl⟩ := exists_granted live none granted
    obtain ⟨tr', live', a, made, rfl, h⟩ := ih r rest live₁
    exact ⟨_, live', a, ⟨.call made.follows, .cons (fun _ => step) made.serves⟩, rfl, h⟩
  | @realloc block _ _ _ _ ih =>
    obtain ⟨granted, tr, rfl, rest⟩ := follows_call_iff.1 run
    obtain ⟨r, live₁, step, rfl⟩ := exists_granted live block granted
    obtain ⟨tr', live', a, made, rfl, h⟩ := ih r rest live₁
    exact ⟨_, live', a, ⟨.call made.follows, .cons (fun _ => step) made.serves⟩, rfl, h⟩
  | @free block _ _ _ ih =>
    obtain ⟨tr', live', a, made, rfl, h⟩ := ih run (live - blockAt block)
    exact ⟨_, live', a, ⟨.call made.follows, .cons (fun _ => rfl) made.serves⟩, rfl, h⟩

end Forgets

namespace Heap

/-- The body of `boy_reserve_entries` and `app_table_reserve_rows`: the return
value, the array and the capacity. -/
def reserve (items : Option Address) (capacity itemSize requiredCount : Nat) :
    OnHeap (Int × Option Address × Nat) :=
  if capacity ≥ requiredCount then
    pure (0, items, capacity)
  else
    match doubleUntil requiredCount 65 (if capacity = 0 then 8 else capacity * 2 % 2 ^ 64) with
    | none => .call (.own .stuck) nofun
    | some newCapacity => do
      let block : Option Address ← memCall (.realloc items (newCapacity * itemSize % 2 ^ 64))
      match block with
      | some b => pure (0, some b, newCapacity)
      | none => pure (-1, items, capacity)

end Heap

/-- The array is moved, or stays as it is. -/
theorem holds_reserve (items : Option Address) (capacity itemSize requiredCount : Nat)
    (mine : Multiset Address) :
    Holds (fun r mine' => mine' = blockAt r.2.1 + mine ∧
        (r.1 = 0 → requiredCount ≤ r.2.2 ∧ capacity ≤ r.2.2) ∧ (r.1 ≠ 0 → r.2 = (items, capacity)))
      (Heap.reserve items capacity itemSize requiredCount) (blockAt items + mine) := by
  unfold Heap.reserve
  split
  · rename_i enough
    exact ⟨rfl, fun _ => ⟨enough, Nat.le_refl _⟩, fun no => absurd rfl no⟩
  · rename_i short
    split
    · exact ⟨⟨nofun, nofun⟩, nofun⟩
    · rename_i newCapacity doubled
      apply (holds_realloc _ _).bind
      rintro block _ rfl
      cases block with
      | none => exact ⟨rfl, nofun, fun _ => rfl⟩
      | some b =>
        have larger := doubleUntil_le doubled
        have below : capacity ≤ newCapacity := by omega
        exact ⟨rfl, fun _ => ⟨larger, below⟩, fun no => absurd rfl no⟩

theorem forgets_reserve (items : Option Address) (capacity itemSize requiredCount : Nat) :
    Forgets (fun r r' => r.1 = r'.1 ∧ r.2.2 = r'.2)
      (Heap.reserve items capacity itemSize requiredCount)
      (reserve capacity itemSize requiredCount) := by
  unfold Heap.reserve reserve
  split
  · exact .done ⟨rfl, rfl⟩
  · generalize doubleUntil requiredCount 65
      (if capacity = 0 then 8 else capacity * 2 % 2 ^ 64) = doubled
    cases doubled with
    | none => exact .own fun r => r.elim
    | some newCapacity =>
      apply Forgets.realloc
      intro block
      cases block with
      | none => exact .done ⟨rfl, rfl⟩
      | some b => exact .done ⟨rfl, rfl⟩

end BeastieBoy
