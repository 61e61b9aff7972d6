import Mathlib.Data.List.Basic
import Mathlib.Data.List.Induction
import Mathlib.Data.List.Nodup
import Mathlib.Tactic.Common

/-!
# Insertion-ordered dictionaries

A `Dict` is a list of key-value pairs with distinct keys. Setting a key that is there keeps its
place; setting a new one puts it last.
-/

namespace Lib

variable {α β : Type*} [DecidableEq α]

namespace Pairs

/-- The value at `k` in a list of pairs. -/
def get? (k : α) : List (α × β) → Option β
  | [] => none
  | (k', v) :: r => if k' = k then some v else get? k r

/-- Set `k` to `v`, in place if `k` is there, at the end if not. -/
def set (k : α) (v : β) : List (α × β) → List (α × β)
  | [] => [(k, v)]
  | (k', v') :: r => if k' = k then (k, v) :: r else (k', v') :: set k v r

/-- Drop the pairs at `k`. -/
def pop (k : α) : List (α × β) → List (α × β)
  | [] => []
  | (k', v) :: r => if k' = k then pop k r else (k', v) :: pop k r

theorem get?_set (k k' : α) (v : β) :
    ∀ l : List (α × β), get? k' (set k v l) = if k = k' then some v else get? k' l
  | [] => by simp [set, get?]
  | (j, w) :: l => by
    have ih := get?_set k k' v l
    simp only [set]
    split_ifs with h1 h2 h2
    · simp [get?, h2]
    · simp [get?, h1, h2]
    · rw [get?, ih, if_pos h2, if_neg (h2 ▸ h1)]
    · simp [get?, ih, h2]

theorem get?_pop (k k' : α) :
    ∀ l : List (α × β), get? k' (pop k l) = if k = k' then none else get? k' l
  | [] => by simp [pop, get?]
  | (j, w) :: l => by
    have ih := get?_pop k k' l
    simp only [pop]
    split_ifs with h1 h2 h2
    · rw [ih, if_pos h2]
    · rw [ih, if_neg h2, get?, if_neg (h1 ▸ h2)]
    · rw [get?, ih, if_pos h2, if_neg (h2 ▸ h1)]
    · simp [get?, ih, h2]

theorem mem_keys_set {k j : α} {v : β} :
    ∀ {l : List (α × β)}, j ∈ (set k v l).map Prod.fst → j = k ∨ j ∈ l.map Prod.fst
  | [], h => by simpa [set] using h
  | (k', v') :: l, h => by
    simp only [set] at h
    split_ifs at h with hk
    · subst hk
      exact .inr (by simpa using h)
    · simp only [List.map_cons, List.mem_cons] at h ⊢
      rcases h with h | h
      · exact .inr (.inl h)
      · exact (mem_keys_set h).imp_right .inr

/-- Setting a key that is there keeps the row of the keys. -/
theorem keys_set_of_mem {k : α} (v : β) :
    ∀ {l : List (α × β)}, k ∈ l.map Prod.fst → (set k v l).map Prod.fst = l.map Prod.fst
  | [], h => by simp at h
  | (k', v') :: l, h => by
    simp only [set]
    split_ifs with hk
    · simp [hk]
    · have hmem : k ∈ l.map Prod.fst := by simpa [Ne.symm hk] using h
      simp only [List.map_cons, keys_set_of_mem v hmem]

/-- A new one comes last. -/
theorem keys_set_of_not_mem {k : α} (v : β) :
    ∀ {l : List (α × β)}, k ∉ l.map Prod.fst → (set k v l).map Prod.fst = l.map Prod.fst ++ [k]
  | [], _ => rfl
  | (k', v') :: l, h => by
    simp only [List.map_cons, List.mem_cons, not_or] at h
    simp only [set, if_neg (Ne.symm h.1), List.map_cons, keys_set_of_not_mem v h.2,
      List.cons_append]

theorem mem_keys_pop {k j : α} :
    ∀ {l : List (α × β)}, j ∈ (pop k l).map Prod.fst → j ∈ l.map Prod.fst
  | [], h => by simp [pop] at h
  | (k', v') :: l, h => by
    simp only [pop] at h
    split_ifs at h
    · exact List.mem_cons_of_mem _ (mem_keys_pop h)
    · simp only [List.map_cons, List.mem_cons] at h ⊢
      exact h.imp_right mem_keys_pop

theorem nodup_set (k : α) (v : β) :
    ∀ {l : List (α × β)}, (l.map Prod.fst).Nodup → ((set k v l).map Prod.fst).Nodup
  | [], _ => by simp [set]
  | (k', v') :: l, h => by
    simp only [List.map_cons, List.nodup_cons] at h
    simp only [set]
    split_ifs with hk
    · subst hk
      simpa using h
    · refine List.nodup_cons.2 ⟨fun hm => ?_, nodup_set k v h.2⟩
      exact (mem_keys_set hm).elim hk h.1

theorem nodup_pop (k : α) :
    ∀ {l : List (α × β)}, (l.map Prod.fst).Nodup → ((pop k l).map Prod.fst).Nodup
  | [], _ => by simp [pop]
  | (k', v') :: l, h => by
    simp only [List.map_cons, List.nodup_cons] at h
    simp only [pop]
    split_ifs
    · exact nodup_pop k h.2
    · exact List.nodup_cons.2 ⟨fun hm => h.1 (mem_keys_pop hm), nodup_pop k h.2⟩

theorem mem_of_get? {k : α} {v : β} : ∀ {l : List (α × β)}, get? k l = some v → (k, v) ∈ l
  | [], h => by simp [get?] at h
  | (k', v') :: l, h => by
    simp only [get?] at h
    split_ifs at h with hk
    · cases h
      subst hk
      exact List.mem_cons_self
    · exact List.mem_cons_of_mem _ (mem_of_get? h)

theorem get?_of_mem {k : α} {v : β} :
    ∀ {l : List (α × β)}, (l.map Prod.fst).Nodup → (k, v) ∈ l → get? k l = some v
  | [], _, h => by simp at h
  | (k', v') :: l, hn, h => by
    simp only [List.map_cons, List.nodup_cons] at hn
    simp only [get?]
    rcases List.mem_cons.1 h with h | h
    · cases h
      simp
    · rw [if_neg, get?_of_mem hn.2 h]
      rintro rfl
      exact hn.1 (List.mem_map.2 ⟨_, h, rfl⟩)

end Pairs

/-- A dictionary that remembers the order its keys came in. -/
structure Dict (α β : Type*) where
  entries : List (α × β)
  nodup : (entries.map Prod.fst).Nodup
deriving DecidableEq

namespace Dict

def empty : Dict α β := ⟨[], List.nodup_nil⟩

def get? (d : Dict α β) (k : α) : Option β := Pairs.get? k d.entries

def contains (d : Dict α β) (k : α) : Bool := (d.get? k).isSome

def set (d : Dict α β) (k : α) (v : β) : Dict α β :=
  ⟨Pairs.set k v d.entries, Pairs.nodup_set k v d.nodup⟩

def pop (d : Dict α β) (k : α) : Dict α β := ⟨Pairs.pop k d.entries, Pairs.nodup_pop k d.nodup⟩

def setdefault (d : Dict α β) (k : α) (v : β) : Dict α β := if d.contains k then d else d.set k v

def values (d : Dict α β) : List β := d.entries.map Prod.snd

/-- The dictionary of a list of pairs: a later pair overwrites an earlier one. -/
def ofList (l : List (α × β)) : Dict α β := l.foldl (fun d e => d.set e.1 e.2) empty

@[simp] theorem get?_empty (k : α) : (empty : Dict α β).get? k = none := rfl

@[simp, grind =] theorem get?_set (d : Dict α β) (k k' : α) (v : β) :
    (d.set k v).get? k' = if k = k' then some v else d.get? k' :=
  Pairs.get?_set k k' v d.entries

@[simp, grind =] theorem get?_pop (d : Dict α β) (k k' : α) :
    (d.pop k).get? k' = if k = k' then none else d.get? k' :=
  Pairs.get?_pop k k' d.entries

@[simp, grind =] theorem get?_setdefault (d : Dict α β) (k k' : α) (v : β) :
    (d.setdefault k v).get? k' = if k = k' then some ((d.get? k).getD v) else d.get? k' := by
  unfold setdefault contains
  rcases h : d.get? k with _ | w
  · simp
  · simp only [Option.isSome_some, ↓reduceIte, Option.getD_some]
    split_ifs with hk
    · rw [← hk, h]
    · rfl

theorem mem_values {d : Dict α β} {v : β} : v ∈ d.values ↔ ∃ k, d.get? k = some v := by
  simp only [values, List.mem_map, Prod.exists]
  constructor
  · rintro ⟨k, w, hm, rfl⟩
    exact ⟨k, Pairs.get?_of_mem d.nodup hm⟩
  · rintro ⟨k, h⟩
    exact ⟨k, v, Pairs.mem_of_get? h, rfl⟩

theorem contains_iff {d : Dict α β} {k : α} :
    d.contains k = true ↔ k ∈ d.entries.map Prod.fst := by
  unfold contains get?
  rw [Option.isSome_iff_exists, List.mem_map]
  constructor
  · rintro ⟨v, hv⟩
    exact ⟨(k, v), Pairs.mem_of_get? hv, rfl⟩
  · rintro ⟨⟨k, v⟩, hm, rfl⟩
    exact ⟨v, Pairs.get?_of_mem d.nodup hm⟩

theorem mem_entries {d : Dict α β} {k : α} {v : β} : (k, v) ∈ d.entries ↔ d.get? k = some v :=
  ⟨Pairs.get?_of_mem d.nodup, Pairs.mem_of_get?⟩

/-- After a row of assignments a key has the value of the last one made to it. -/
theorem get?_foldl_set {γ : Type*} (key : γ → α) (val : γ → β) (a : α) (b : β) (l : List γ) :
    (l.foldl (fun (d : Dict α β) e => d.set (key e) (val e)) empty).get? a = some b
      ↔ ∃ l₁ e l₂, l = l₁ ++ e :: l₂ ∧ key e = a ∧ val e = b ∧ ∀ e' ∈ l₂, key e' ≠ a := by
  induction l using List.reverseRecOn with
  | nil => simp
  | append_singleton l e ih =>
    rw [List.foldl_append, List.foldl_cons, List.foldl_nil, get?_set]
    split_ifs with he
    · constructor
      · intro h
        exact ⟨l, e, [], rfl, he, Option.some.inj h, by simp⟩
      · rintro ⟨l₁, e', l₂, hl, -, rfl, hlast⟩
        rcases l₂.eq_nil_or_concat with rfl | ⟨l₂, x, rfl⟩
        · obtain rfl := List.singleton_inj.1 (List.append_inj' hl rfl).2
          rfl
        · rw [List.concat_eq_append, ← List.cons_append, ← List.append_assoc] at hl
          obtain rfl := List.singleton_inj.1 (List.append_inj' hl rfl).2
          exact absurd he (hlast e (by simp))
    · rw [ih]
      constructor
      · rintro ⟨l₁, e', l₂, rfl, ha, hb, hlast⟩
        refine ⟨l₁, e', l₂ ++ [e], by simp, ha, hb, fun x hx => ?_⟩
        rcases List.mem_append.1 hx with hx | hx
        · exact hlast x hx
        · rwa [List.mem_singleton.1 hx]
      · rintro ⟨l₁, e', l₂, hl, ha, hb, hlast⟩
        rcases l₂.eq_nil_or_concat with rfl | ⟨l₂, x, rfl⟩
        · obtain rfl := List.singleton_inj.1 (List.append_inj' hl rfl).2
          exact absurd ha he
        · rw [List.concat_eq_append, ← List.cons_append, ← List.append_assoc] at hl
          exact ⟨l₁, e', l₂, (List.append_inj' hl rfl).1, ha, hb,
            fun y hy => hlast y (by simp [hy])⟩

/-- A key some assignment is made to has a value after all of them. -/
theorem exists_get?_foldl_set {γ : Type*} (key : γ → α) (val : γ → β) (l : List γ) {e : γ}
    (he : e ∈ l) :
    ∃ b, (l.foldl (fun (d : Dict α β) e => d.set (key e) (val e)) empty).get? (key e) = some b := by
  induction l using List.reverseRecOn with
  | nil => simp at he
  | append_singleton l e' ih =>
    rw [List.foldl_append, List.foldl_cons, List.foldl_nil, get?_set]
    split_ifs with h
    · exact ⟨val e', rfl⟩
    · refine ih ((List.mem_append.1 he).resolve_right fun hm => h ?_)
      rw [List.mem_singleton.1 hm]

/-! ### Turning a dictionary round -/

section Invert

variable [DecidableEq β]

/-- Keys and values swapped, one pair after the other: a value that several keys have is left
with the last of them. -/
def invert (d : Dict α β) : Dict β α := d.entries.foldl (fun i e => i.set e.2 e.1) empty

omit [DecidableEq α] in
/-- A value leads back to the last key that has it. -/
theorem get?_invert {d : Dict α β} {b : β} {a : α} :
    d.invert.get? b = some a
      ↔ ∃ l₁ l₂, d.entries = l₁ ++ (a, b) :: l₂ ∧ b ∉ l₂.map Prod.snd := by
  unfold invert
  rw [get?_foldl_set]
  constructor
  · rintro ⟨l₁, ⟨a, b⟩, l₂, hl, rfl, rfl, hlast⟩
    exact ⟨l₁, l₂, hl, fun hm => (List.mem_map.1 hm).elim fun e he => hlast e he.1 he.2⟩
  · rintro ⟨l₁, l₂, hl, hlast⟩
    exact ⟨l₁, (a, b), l₂, hl, rfl, rfl,
      fun e he hb => hlast (List.mem_map.2 ⟨e, he, hb⟩)⟩

theorem get?_of_invert {d : Dict α β} {b : β} {a : α} (h : d.invert.get? b = some a) :
    d.get? a = some b := by
  obtain ⟨l₁, l₂, hl, -⟩ := get?_invert.1 h
  exact mem_entries.1 (by simp [hl])

/-- Every value leads back to some key. -/
theorem exists_get?_invert {d : Dict α β} {b : β} {a : α} (h : d.get? a = some b) :
    ∃ a', d.invert.get? b = some a' :=
  exists_get?_foldl_set Prod.snd Prod.fst d.entries (mem_entries.2 h)

/-- Turning round loses nothing just when no two keys have one value. -/
theorem invert_faithful {d : Dict α β} :
    (∀ a b, d.get? a = some b → d.invert.get? b = some a)
      ↔ ∀ a a' b, d.get? a = some b → d.get? a' = some b → a = a' := by
  constructor
  · intro h a a' b ha ha'
    exact Option.some.inj ((h a b ha).symm.trans (h a' b ha'))
  · intro h a b ha
    obtain ⟨a', ha'⟩ := exists_get?_invert ha
    rw [ha', h a a' b ha (get?_of_invert ha')]

end Invert

end Dict

end Lib
