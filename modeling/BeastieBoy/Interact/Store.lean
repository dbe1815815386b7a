import Mathlib.Data.Finmap
import Mathlib.Data.Fintype.EquivFin

/-!
# A store of written keys

A finite map that is changed one key at a time. The last write to a key decides
what the key holds.

An operation made of several writes has an `Effect`: what it leaves in each key
when nobody else writes. Writes of several operations, in whatever order they
came, leave what the effects leave in some order, one after the other
(`exists_serial_order`).
-/

namespace Interact

abbrev Store (K V : Type) := Finmap fun _ : K => V

/-- A value for a key, or the key's removal. -/
structure Write (K V : Type) where
  key : K
  value : Option V
  deriving DecidableEq

variable {K V : Type}

namespace Store
variable [DecidableEq K]

def write (t : Store K V) (w : Write K V) : Store K V :=
  match w.value with
  | some v => t.insert w.key v
  | none => t.erase w.key

def writes (t : Store K V) (ws : List (Write K V)) : Store K V := ws.foldl write t

@[simp] theorem writes_nil (t : Store K V) : t.writes [] = t := rfl

@[simp] theorem writes_cons (t : Store K V) (w : Write K V) (ws : List (Write K V)) :
    t.writes (w :: ws) = (t.write w).writes ws := rfl

theorem writes_append (t : Store K V) (ws ws' : List (Write K V)) :
    t.writes (ws ++ ws') = (t.writes ws).writes ws' := List.foldl_append

theorem lookup_write (t : Store K V) (w : Write K V) (k : K) :
    (t.write w).lookup k = if k = w.key then w.value else t.lookup k := by
  obtain ⟨key, value⟩ := w
  by_cases same : k = key
  · subst same
    cases value with
    | none => simp [write]
    | some v => simp [write]
  · cases value with
    | none => simp [write, same, Finmap.lookup_erase_ne same]
    | some v => simp [write, same, Finmap.lookup_insert_of_ne _ same]

theorem lookup_writes_untouched {t : Store K V} {ws : List (Write K V)} {k : K}
    (h : ∀ w ∈ ws, w.key ≠ k) : (t.writes ws).lookup k = t.lookup k := by
  induction ws generalizing t with
  | nil => rfl
  | cons w ws ih =>
    have other : k ≠ w.key := Ne.symm (h w List.mem_cons_self)
    rw [writes_cons, ih fun w' hw' => h w' (List.mem_cons_of_mem _ hw'), lookup_write, if_neg other]

theorem lookup_writes_last {t : Store K V} {earlier later : List (Write K V)} {w : Write K V}
    (h : ∀ w' ∈ later, w'.key ≠ w.key) :
    (t.writes (earlier ++ w :: later)).lookup w.key = w.value := by
  rw [writes_append, writes_cons, lookup_writes_untouched h, lookup_write, if_pos rfl]

/-- Keys removed one after the other. -/
theorem lookup_removals (t : Store K V) (ks : List K) (k : K) :
    (t.writes (ks.map fun k => ⟨k, none⟩)).lookup k = if k ∈ ks then none else t.lookup k := by
  induction ks generalizing t with
  | nil => rfl
  | cons k' ks ih =>
    rw [List.map_cons, writes_cons, ih, lookup_write]
    by_cases later : k ∈ ks
    · simp [later]
    · by_cases now : k = k'
      · simp [now]
      · simp [later, now]

end Store

/-- The last element with a property, if there is one. -/
theorem exists_last {α : Type} {p : α → Prop} {l : List α} (h : ∃ a ∈ l, p a) :
    ∃ l₁ a l₂, l = l₁ ++ a :: l₂ ∧ p a ∧ ∀ b ∈ l₂, ¬ p b := by
  induction l with
  | nil => simp at h
  | cons c l ih =>
    by_cases later : ∃ a ∈ l, p a
    · obtain ⟨l₁, a, l₂, rfl, ha, hl₂⟩ := ih later
      exact ⟨c :: l₁, a, l₂, rfl, ha, hl₂⟩
    · obtain ⟨a, ha, hpa⟩ := h
      have first : a = c := by
        rcases List.mem_cons.mp ha with rfl | ha
        · rfl
        · exact absurd ⟨a, ha, hpa⟩ later
      exact ⟨[], c, l, rfl, first ▸ hpa, fun b hb hpb => later ⟨b, hb, hpb⟩⟩

theorem last_unique {α : Type} {p : α → Prop} {l₁ l₂ m₁ m₂ : List α} {a b : α}
    (same : l₁ ++ a :: l₂ = m₁ ++ b :: m₂) (ha : p a) (hb : p b) (hl : ∀ c ∈ l₂, ¬ p c)
    (hm : ∀ c ∈ m₂, ¬ p c) : a = b := by
  rcases List.append_eq_append_iff.1 same with ⟨t, _, rest⟩ | ⟨t, _, rest⟩
  · cases t with
    | nil => exact (List.cons.inj rest).1
    | cons x t =>
      have inside : b ∈ l₂ := by
        rw [(List.cons.inj rest).2]
        simp
      exact absurd hb (hl b inside)
  · cases t with
    | nil => exact (List.cons.inj rest).1.symm
    | cons x t =>
      have inside : a ∈ m₂ := by
        rw [(List.cons.inj rest).2]
        simp
      exact absurd ha (hm a inside)

/-! ## Effects -/

/-- What an operation leaves in each key it decides: a value, or nothing. -/
abbrev Effect (K V : Type) := K → Option (Option V)

namespace Effect

def none : Effect K V := fun _ => .none

def assign [DecidableEq K] (key : K) (v : V) : Effect K V :=
  fun k => if k = key then some (some v) else .none

def clear (p : K → Bool) : Effect K V := fun k => if p k then some .none else .none

def apply (e : Effect K V) (f : K → Option V) : K → Option V := fun k => (e k).getD (f k)

/-- One after the other. -/
def applyAll (es : List (Effect K V)) (f : K → Option V) : K → Option V :=
  es.foldl (fun f e => e.apply f) f

theorem applyAll_append (es es' : List (Effect K V)) (f : K → Option V) :
    applyAll (es ++ es') f = applyAll es' (applyAll es f) := List.foldl_append

/-- Effects that agree on a key leave there what they agree on. -/
theorem applyAll_of_agree {es : List (Effect K V)} {k : K} {r : Option V}
    (agree : ∀ e ∈ es, ∀ r', e k = some r' → r' = r) (f : K → Option V) :
    applyAll es f k = r ∧ (∃ e ∈ es, e k = some r) ∨
      applyAll es f k = f k ∧ ∀ e ∈ es, e k = .none := by
  induction es generalizing f with
  | nil => exact .inr ⟨rfl, by simp⟩
  | cons e es ih =>
    have rest := ih (fun e' he' => agree e' (List.mem_cons_of_mem _ he')) (e.apply f)
    have unfolded : applyAll (e :: es) f k = applyAll es (e.apply f) k := rfl
    rcases rest with ⟨value, e', he', hk⟩ | ⟨value, untouched⟩
    · exact .inl ⟨unfolded.trans value, e', List.mem_cons_of_mem _ he', hk⟩
    · cases hek : e k with
      | none =>
        refine .inr ⟨by simp [unfolded, value, apply, hek], ?_⟩
        simpa [hek] using untouched
      | some r' =>
        have same := agree e List.mem_cons_self r' hek
        exact .inl ⟨by simp [unfolded, value, apply, hek, same], e, List.mem_cons_self, same ▸ hek⟩

theorem applyAll_touched {es : List (Effect K V)} {k : K} {r : Option V}
    (agree : ∀ e ∈ es, ∀ r', e k = some r' → r' = r) {e : Effect K V} (he : e ∈ es)
    (touches : e k = some r) (f : K → Option V) : applyAll es f k = r := by
  rcases applyAll_of_agree agree f with ⟨value, _⟩ | ⟨_, untouched⟩
  · exact value
  · rw [untouched e he] at touches
    cases touches

theorem applyAll_untouched {es : List (Effect K V)} {k : K} (h : ∀ e ∈ es, e k = .none)
    (f : K → Option V) : applyAll es f k = f k := by
  induction es generalizing f with
  | nil => rfl
  | cons e es ih =>
    have first := h e List.mem_cons_self
    have rest := ih (fun e' he' => h e' (List.mem_cons_of_mem _ he')) (e.apply f)
    exact rest.trans (by simp [apply, first])

/-- The effects decide the key whatever it held, or leave it alone. -/
theorem applyAll_decides (es : List (Effect K V)) (k : K) :
    (∃ r, ∀ f, applyAll es f k = r) ∨ ∀ f, applyAll es f k = f k := by
  induction es with
  | nil => exact .inr fun _ => rfl
  | cons e es ih =>
    have unfolded (f : K → Option V) : applyAll (e :: es) f k = applyAll es (e.apply f) k := rfl
    rcases ih with ⟨r, decided⟩ | untouched
    · exact .inl ⟨r, fun f => (unfolded f).trans (decided _)⟩
    · cases hek : e k with
      | none => exact .inr fun f => by rw [unfolded, untouched, apply, hek, Option.getD_none]
      | some r => exact .inl ⟨r, fun f => by rw [unfolded, untouched, apply, hek, Option.getD_some]⟩

end Effect

/-! ## Several operations at once -/

/-- An operation that only assigns to one key, or only clears keys. -/
inductive Operation (K V : Type) where
  | leave
  | assign (key : K) (v : V)
  | clear (p : K → Bool)

namespace Operation
variable [DecidableEq K]

def effect : Operation K V → Effect K V
  | leave => .none
  | assign key v => .assign key v
  | clear p => .clear p

/-- The operation makes this write. -/
def Writes : Operation K V → Write K V → Prop
  | leave, _ => False
  | assign key v, w => w = ⟨key, some v⟩
  | clear p, w => w.value = none ∧ p w.key = true

/-- An operation adds at most one key. -/
theorem card_keys_le {op : Operation K V} {t t' : Store K V}
    (h : (fun k => t'.lookup k) = op.effect.apply fun k => t.lookup k) :
    t'.keys.card ≤ t.keys.card + 1 := by
  have new {k : K} (hk : k ∈ t'.keys) (absent : k ∉ t.keys) : ∃ v, op = .assign k v := by
    have gone : t.lookup k = .none :=
      Finmap.lookup_eq_none.2 fun hm => absent (Finmap.mem_keys.2 hm)
    have there : op.effect.apply (fun k => t.lookup k) k ≠ .none := by
      rw [← h]
      exact fun gone' => Finmap.lookup_eq_none.1 gone' (Finmap.mem_keys.1 hk)
    by_contra other
    apply there
    cases op with
    | leave => exact gone
    | assign key v =>
      have ne : k ≠ key := by
        rintro rfl
        exact other ⟨v, rfl⟩
      simp [effect, Effect.apply, Effect.assign, ne, gone]
    | clear p =>
      simp only [effect, Effect.apply, Effect.clear, gone]
      split
      · rfl
      · rfl
  by_cases assigns : ∃ key v, op = .assign key v
  · obtain ⟨key, v, rfl⟩ := assigns
    have keys : t'.keys ⊆ insert key t.keys := by
      intro k hk
      by_cases old : k ∈ t.keys
      · exact Finset.mem_insert_of_mem old
      · obtain ⟨v', same⟩ := new hk old
        cases same
        exact Finset.mem_insert_self _ _
    exact (Finset.card_le_card keys).trans (Finset.card_insert_le key t.keys)
  · have keys : t'.keys ⊆ t.keys := fun k hk => by_contra fun absent => assigns ⟨k, new hk absent⟩
    exact Nat.le_succ_of_le (Finset.card_le_card keys)

end Operation

section Serial
variable [DecidableEq K] {ι : Type}

/-- The writes of several operations in the order they came, each with the
operation that made it: an assignment was made, and a clearing missed no key
that was there all the time. -/
structure Interleaved (op : ι → Operation K V) (t : Store K V)
    (ws : List (ι × Write K V)) : Prop where
  own : ∀ x ∈ ws, (op x.1).Writes x.2
  assigned : ∀ i key v, op i = .assign key v → ∃ x ∈ ws, x.1 = i
  cleared : ∀ i p, op i = .clear p → ∀ k, p k = true → (∀ x ∈ ws, x.2.key ≠ k) → t.lookup k = none

/-- The operation's assignment is the last write to its key. -/
def Wins (op : ι → Operation K V) (ws : List (ι × Write K V)) (i : ι) : Prop :=
  ∃ key v earlier later, op i = .assign key v ∧ ws = earlier ++ (i, ⟨key, some v⟩) :: later ∧
    ∀ x ∈ later, x.2.key ≠ key

variable {op : ι → Operation K V} {t : Store K V} {ws : List (ι × Write K V)}

/-- A winner's effect on a key is the last write to it. -/
theorem Wins.last {i j : ι} (wins : Wins op ws i) {k : K} {r : Option V}
    (touches : (op i).effect k = some r) {earlier later : List (ι × Write K V)} {w : Write K V}
    (split : ws = earlier ++ (j, w) :: later) (hw : w.key = k)
    (hl : ∀ x ∈ later, x.2.key ≠ k) : j = i ∧ w.value = r := by
  obtain ⟨key, v, earlier', later', hop, split', hl'⟩ := wins
  have hk : k = key ∧ r = some v := by
    simp only [hop, Operation.effect, Effect.assign] at touches
    split at touches
    · exact ⟨by assumption, (Option.some.inj touches).symm⟩
    · cases touches
  obtain ⟨rfl, rfl⟩ := hk
  have same :=
    last_unique (p := fun x : ι × Write K V => x.2.key = k) (split.symm.trans split') hw rfl
    hl hl'
  cases same
  exact ⟨rfl, rfl⟩

/-- An operation that decides a key nobody wrote is a clearing, and the key was
not there. -/
theorem Interleaved.untouched (h : Interleaved op t ws) {k : K} (quiet : ∀ x ∈ ws, x.2.key ≠ k)
    {i : ι} {r : Option V} (touches : (op i).effect k = some r) : r = t.lookup k := by
  cases hop : op i with
  | leave => simp [hop, Operation.effect, Effect.none] at touches
  | assign key v =>
    obtain ⟨x, hx, rfl⟩ := h.assigned i key v hop
    have written := h.own x hx
    simp only [hop, Operation.Writes] at written
    have other : k ≠ key := fun same => quiet x hx (by rw [written, same])
    simp [hop, Operation.effect, Effect.assign, other] at touches
  | clear p =>
    simp only [hop, Operation.effect, Effect.clear] at touches
    split at touches
    · rename_i hp
      rw [← Option.some.inj touches, h.cleared i p hop k hp quiet]
    · cases touches

theorem effect_of_clear {i : ι} {p : K → Bool} (hop : op i = .clear p) {k : K} {r : Option V}
    (touches : (op i).effect k = some r) : r = none := by
  simp only [hop, Operation.effect, Effect.clear] at touches
  split at touches
  · exact (Option.some.inj touches).symm
  · cases touches

theorem lookup_tagged_last {earlier later : List (ι × Write K V)} {x : ι × Write K V}
    (hl : ∀ y ∈ later, y.2.key ≠ x.2.key) :
    (t.writes ((earlier ++ x :: later).map Prod.snd)).lookup x.2.key = x.2.value := by
  rw [List.map_append, List.map_cons]
  apply Store.lookup_writes_last
  intro w hw
  obtain ⟨y, hy, rfl⟩ := List.mem_map.mp hw
  exact hl y hy

/-- Whatever came before, the clearings and then the winners leave what the
writes left. -/
theorem Interleaved.serial (h : Interleaved op t ws) (losers : List ι) {sweepers winners : List ι}
    (hs : ∀ i, i ∈ sweepers ↔ ∃ p, op i = .clear p) (hw : ∀ i, i ∈ winners ↔ Wins op ws i) (k : K) :
    Effect.applyAll ((losers ++ sweepers ++ winners).map fun i => (op i).effect)
      (fun k => t.lookup k) k = (t.writes (ws.map Prod.snd)).lookup k := by
  by_cases touched : ∃ x ∈ ws, x.2.key = k
  · obtain ⟨earlier, ⟨j, w⟩, later, split, rfl, hl⟩ := exists_last touched
    have written := h.own (j, w) (by simp [split])
    have agree : ∀ e ∈ winners.map fun i => (op i).effect, ∀ r, e w.key = some r → r = w.value := by
      intro e he r hr
      obtain ⟨i, hi, rfl⟩ := List.mem_map.mp he
      exact (((hw i).1 hi).last hr split rfl hl).2.symm
    rw [split, lookup_tagged_last hl, List.map_append, Effect.applyAll_append]
    cases hop : op j with
    | leave => simp [hop, Operation.Writes] at written
    | assign key v =>
      simp only [hop, Operation.Writes] at written
      subst written
      have wins : j ∈ winners := (hw j).2 ⟨key, v, earlier, later, hop, split, hl⟩
      apply Effect.applyAll_touched agree (List.mem_map_of_mem wins)
      simp [hop, Operation.effect, Effect.assign]
    | clear p =>
      simp only [hop, Operation.Writes] at written
      rw [Effect.applyAll_untouched, List.map_append, Effect.applyAll_append, written.1]
      · have swept : j ∈ sweepers := (hs j).2 ⟨p, hop⟩
        apply Effect.applyAll_touched _ (List.mem_map_of_mem swept)
        · simp [hop, Operation.effect, Effect.clear, written.2]
        · intro e he r hr
          obtain ⟨i, hi, rfl⟩ := List.mem_map.mp he
          obtain ⟨q, hq⟩ := (hs i).1 hi
          exact effect_of_clear hq hr
      · intro e he
        obtain ⟨i, hi, rfl⟩ := List.mem_map.mp he
        cases hr : (op i).effect w.key with
        | none => rfl
        | some r =>
          obtain ⟨rfl, _⟩ := ((hw i).1 hi).last hr split rfl hl
          obtain ⟨_, _, _, _, ha, _⟩ := (hw j).1 hi
          rw [hop] at ha
          cases ha
  · have quiet : ∀ x ∈ ws, x.2.key ≠ k := fun x hx hk => touched ⟨x, hx, hk⟩
    have final : (t.writes (ws.map Prod.snd)).lookup k = t.lookup k := by
      apply Store.lookup_writes_untouched
      intro w hw
      obtain ⟨x, hx, rfl⟩ := List.mem_map.mp hw
      exact quiet x hx
    have agree : ∀ e ∈ (losers ++ sweepers ++ winners).map fun i => (op i).effect, ∀ r,
        e k = some r → r = t.lookup k := by
      intro e he r hr
      obtain ⟨i, _, rfl⟩ := List.mem_map.mp he
      exact h.untouched quiet hr
    rw [final]
    rcases Effect.applyAll_of_agree agree fun k => t.lookup k with ⟨value, _⟩ | ⟨value, _⟩
    · exact value
    · exact value

/-- The operations' writes leave what the operations leave one after the other,
in some order. -/
theorem exists_serial_order [Finite ι] (h : Interleaved op t ws) :
    ∃ order : List ι, order.Nodup ∧ (∀ i, i ∈ order) ∧
      Effect.applyAll (order.map fun i => (op i).effect) (fun k => t.lookup k) =
        fun k => (t.writes (ws.map Prod.snd)).lookup k := by
  classical
  have := Fintype.ofFinite ι
  let clears (i : ι) : Prop := ∃ p, op i = .clear p
  let everyone := (Finset.univ : Finset ι).toList
  have all : everyone.Nodup := Finset.nodup_toList _
  have wins_assign {i : ι} (wins : Wins op ws i) : ¬ clears i := by
    rintro ⟨p, hp⟩
    obtain ⟨_, _, _, _, ha, _⟩ := wins
    rw [hp] at ha
    cases ha
  refine ⟨everyone.filter (fun i => ¬ clears i ∧ ¬ Wins op ws i) ++ everyone.filter (clears ·) ++
    everyone.filter (Wins op ws ·), ?_, ?_, funext (h.serial _ ?_ ?_)⟩
  · refine List.nodup_append.2 ⟨List.nodup_append.2 ⟨all.filter _, all.filter _, ?_⟩,
      all.filter _, ?_⟩
    · rintro i hi _ hj rfl
      simp only [List.mem_filter, decide_eq_true_eq] at hi hj
      exact hi.2.1 hj.2
    · rintro i hi _ hj rfl
      simp only [List.mem_append, List.mem_filter, decide_eq_true_eq] at hi hj
      rcases hi with hi | hi
      · exact hi.2.2 hj.2
      · exact wins_assign hj.2 hi.2
  · intro i
    simp only [everyone, List.mem_append, List.mem_filter, Finset.mem_toList, Finset.mem_univ,
      true_and, decide_eq_true_eq]
    tauto
  · simp [everyone, clears]
  · simp [everyone]

end Serial

end Interact
