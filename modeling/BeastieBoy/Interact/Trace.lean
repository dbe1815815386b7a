import Mathlib.Data.List.Basic

/-!
# What a trace says

A trace grows at its end, one entry at a time. Each notion here comes with the
rule for one more entry:

* `Had p`: some entry is a `p`;
* `NoneAfter p q`: no `q` comes after a `p`;
* `Since p q`: there was a `p`, and no `q` since then;
* `AtMostAfter n p q`: once there was a `p`, at most `n` more `q` come.
-/

namespace Interact

variable {α : Type} {p q : α → Bool} {tr : List α} {a : α} {n : Nat}

/-- The last entry of a trace, or one further in. -/
theorem split_concat {before after : List α} {e last : α}
    (h : tr ++ [last] = before ++ e :: after) :
    tr = before ∧ last = e ∨ ∃ after', tr = before ++ e :: after' := by
  rcases List.eq_nil_or_concat' after with rfl | ⟨after', last', rfl⟩
  · obtain ⟨same, ends⟩ := List.append_inj' h rfl
    exact .inl ⟨same, List.singleton_inj.1 ends⟩
  · rw [← List.cons_append, ← List.append_assoc] at h
    exact .inr ⟨after', (List.append_inj' h rfl).1⟩

def Had (p : α → Bool) (tr : List α) : Prop := ∃ a ∈ tr, p a

instance : Decidable (Had p tr) := inferInstanceAs (Decidable (∃ a ∈ tr, p a))

theorem not_had_nil : ¬ Had p [] := by simp [Had]

theorem had_concat_iff : Had p (tr ++ [a]) ↔ Had p tr ∨ p a := by
  simp [Had, or_and_right, exists_or]

theorem not_had_concat (h : ¬ Had p tr) (ha : p a = false) : ¬ Had p (tr ++ [a]) := by
  rw [had_concat_iff, ha]
  simpa using h

theorem had_append_iff {tr' : List α} : Had p (tr ++ tr') ↔ Had p tr ∨ Had p tr' := by
  simp [Had, or_and_right, exists_or]

theorem Had.concat (h : Had p tr) : Had p (tr ++ [a]) := had_concat_iff.2 (.inl h)

def NoneAfter (p q : α → Bool) (tr : List α) : Prop := tr.Pairwise fun a b => p a → ¬ q b

theorem noneAfter_nil : NoneAfter p q [] := List.Pairwise.nil

theorem noneAfter_concat_iff :
    NoneAfter p q (tr ++ [a]) ↔ NoneAfter p q tr ∧ (q a → ¬ Had p tr) := by
  simp only [NoneAfter, List.pairwise_append, List.pairwise_singleton, true_and, Had]
  constructor
  · rintro ⟨h, last⟩
    exact ⟨h, fun hq ⟨b, hb, hp⟩ => last b hb a List.mem_cons_self hp hq⟩
  · rintro ⟨h, last⟩
    refine ⟨h, ?_⟩
    intro b hb c hc hp hq
    rw [List.mem_singleton.1 hc] at hq
    exact last hq ⟨b, hb, hp⟩

theorem NoneAfter.concat (h : NoneAfter p q tr) (ha : q a = false) : NoneAfter p q (tr ++ [a]) :=
  noneAfter_concat_iff.2 ⟨h, fun hq => by simp [ha] at hq⟩

theorem noneAfter_of_not_had (h : ¬ Had p tr) : NoneAfter p q tr := by
  apply List.pairwise_of_forall_mem_list
  intro b hb _ _ hp
  exact absurd ⟨b, hb, hp⟩ h

def Since (p q : α → Bool) (tr : List α) : Prop :=
  ∃ t₁ a t₂, tr = t₁ ++ a :: t₂ ∧ p a ∧ ¬ Had q t₂

theorem since_concat_of_left (h : p a) : Since p q (tr ++ [a]) := ⟨tr, a, [], rfl, h, not_had_nil⟩

theorem Since.concat (h : Since p q tr) (ha : ¬ q a) : Since p q (tr ++ [a]) := by
  obtain ⟨t₁, b, t₂, rfl, hb, none⟩ := h
  refine ⟨t₁, b, t₂ ++ [a], by simp, hb, ?_⟩
  rw [had_concat_iff]
  rintro (h | h)
  · exact none h
  · exact ha h

def AtMostAfter (n : Nat) (p q : α → Bool) (tr : List α) : Prop :=
  ∃ t₀ t₁, tr = t₀ ++ t₁ ∧ ¬ Had p t₀ ∧ t₁.countP q ≤ n

theorem atMostAfter_of_not_had (h : ¬ Had p tr) : AtMostAfter n p q tr :=
  ⟨tr, [], by simp, h, by simp⟩

theorem AtMostAfter.concat (h : AtMostAfter n p q tr) (ha : ¬ q a) :
    AtMostAfter n p q (tr ++ [a]) := by
  obtain ⟨t₀, t₁, rfl, none, few⟩ := h
  exact ⟨t₀, t₁ ++ [a], by simp, none, by simpa [List.countP_append, ha] using few⟩

theorem AtMostAfter.succ (h : AtMostAfter n p q tr) : AtMostAfter (n + 1) p q (tr ++ [a]) := by
  obtain ⟨t₀, t₁, rfl, none, few⟩ := h
  refine ⟨t₀, t₁ ++ [a], by simp, none, ?_⟩
  have := List.countP_le_length (p := q) (l := [a])
  rw [List.countP_append]
  simp only [List.length_cons, List.length_nil] at this
  omega

theorem AtMostAfter.mono {m : Nat} (h : AtMostAfter n p q tr) (hm : n ≤ m) :
    AtMostAfter m p q tr := by
  obtain ⟨t₀, t₁, rfl, none, few⟩ := h
  exact ⟨t₀, t₁, rfl, none, Nat.le_trans few hm⟩

/-- What comes behind a `p` holds at most `n` of `q`. -/
theorem AtMostAfter.countP_le {t u : List α} (h : AtMostAfter n p q (t ++ u)) (had : Had p t) :
    u.countP q ≤ n := by
  obtain ⟨t₀, t₁, eq, none, few⟩ := h
  rcases List.append_eq_append_iff.1 eq with ⟨v, hv, _⟩ | ⟨v, _, hv⟩
  · exact absurd (hv ▸ had_append_iff.2 (.inl had)) none
  · rw [hv, List.countP_append] at few
    omega

end Interact
