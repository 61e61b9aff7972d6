import Mathlib.Data.List.Basic
import Mathlib.Data.List.Induction
import Mathlib.Tactic.Common

/-!
# Machines with an output

A machine takes inputs one after the other and emits events at each. A machine whose inputs each
name a key may be a family of machines, one a key, that never meet: what it does to a key is then
what the key's own machine does on the key's own inputs.
-/

namespace Lib

/-- A machine with states `σ`, inputs `α` and events `ε`. -/
structure Mealy (σ α ε : Type*) where
  step : σ → α → σ × List ε

namespace Mealy

variable {σ τ α ε : Type*} (M : Mealy σ α ε)

/-- The state after the inputs. -/
def after (s : σ) : List α → σ
  | [] => s
  | a :: as => after (M.step s a).1 as

/-- The events of the inputs, in order. -/
def output (s : σ) : List α → List ε
  | [] => []
  | a :: as => (M.step s a).2 ++ output (M.step s a).1 as

@[simp] theorem after_nil (s : σ) : M.after s [] = s := rfl

@[simp] theorem output_nil (s : σ) : M.output s [] = [] := rfl

@[simp] theorem after_cons (s : σ) (a : α) (as : List α) :
    M.after s (a :: as) = M.after (M.step s a).1 as := rfl

@[simp] theorem output_cons (s : σ) (a : α) (as : List α) :
    M.output s (a :: as) = (M.step s a).2 ++ M.output (M.step s a).1 as := rfl

theorem after_append (s : σ) : ∀ as bs : List α, M.after s (as ++ bs) = M.after (M.after s as) bs
  | [], _ => rfl
  | a :: as, bs => after_append (M.step s a).1 as bs

theorem output_append (s : σ) : ∀ as bs : List α,
    M.output s (as ++ bs) = M.output s as ++ M.output (M.after s as) bs
  | [], _ => rfl
  | a :: as, bs => by
    simp only [List.cons_append, output_cons, after_cons, List.append_assoc]
    rw [output_append _ as bs]

theorem after_snoc (s : σ) (as : List α) (a : α) :
    M.after s (as ++ [a]) = (M.step (M.after s as) a).1 := M.after_append s as [a]

theorem output_snoc (s : σ) (as : List α) (a : α) :
    M.output s (as ++ [a]) = M.output s as ++ (M.step (M.after s as) a).2 := by
  simp [output_append]

variable {M}

/-- What holds at the start and is kept by every input that meets a condition holds after inputs
that all meet it. The invariant may speak of the inputs and the events so far; the condition,
of the state the input is taken in. -/
theorem invariant {I : List α → List ε → σ → Prop} {C : σ → α → Prop} {s : σ} (h0 : I [] [] s)
    (hstep : ∀ {as es t} a, I as es t → C t a →
      I (as ++ [a]) (es ++ (M.step t a).2) (M.step t a).1) :
    ∀ as : List α, (∀ l a r, as = l ++ a :: r → C (M.after s l) a) →
      I as (M.output s as) (M.after s as) := by
  intro as
  induction as using List.reverseRecOn with
  | nil => exact fun _ => h0
  | append_singleton as a ih =>
    intro hok
    rw [after_snoc, output_snoc]
    refine hstep a (ih fun l b r hl => ?_) (hok as a [] rfl)
    exact hok l b (r ++ [a]) (by rw [hl, List.append_assoc, List.cons_append])

section Family

variable {κ β : Type*} [DecidableEq κ]

/-- The inputs that name `k`. -/
def mine (k : κ) : List (κ × β) → List β
  | [] => []
  | (k', b) :: as => if k' = k then b :: mine k as else mine k as

@[simp] theorem mine_nil (k : κ) : mine k ([] : List (κ × β)) = [] := rfl

@[simp] theorem mine_cons_self (k : κ) (b : β) (as : List (κ × β)) :
    mine k ((k, b) :: as) = b :: mine k as := if_pos rfl

theorem mine_cons_of_ne {k k' : κ} (h : k' ≠ k) (b : β) (as : List (κ × β)) :
    mine k ((k', b) :: as) = mine k as := if_neg h

@[simp] theorem mine_append (k : κ) : ∀ as bs : List (κ × β),
    mine k (as ++ bs) = mine k as ++ mine k bs
  | [], _ => rfl
  | (k', b) :: as, bs => by
    simp only [List.cons_append, mine]
    split_ifs
    · rw [mine_append k as bs, List.cons_append]
    · exact mine_append k as bs

/-- Every one of a key's inputs has its place among all inputs. -/
theorem mine_split {k : κ} : ∀ {as : List (κ × β)} {l : List β} {b : β} {r : List β},
    mine k as = l ++ b :: r → ∃ as₁ as₂, as = as₁ ++ (k, b) :: as₂ ∧ mine k as₁ = l
      ∧ mine k as₂ = r
  | [], l, b, r, h => by simp [mine] at h
  | (k', c) :: as, l, b, r, h => by
    by_cases hk : k' = k
    · subst hk
      rw [mine_cons_self] at h
      rcases l with _ | ⟨c', l⟩
      · simp only [List.nil_append, List.cons.injEq] at h
        obtain ⟨rfl, rfl⟩ := h
        exact ⟨[], as, rfl, rfl, rfl⟩
      · simp only [List.cons_append, List.cons.injEq] at h
        obtain ⟨rfl, h⟩ := h
        obtain ⟨as₁, as₂, rfl, h₁, h₂⟩ := mine_split h
        exact ⟨(k', c) :: as₁, as₂, rfl, by simp [h₁], h₂⟩
    · rw [mine_cons_of_ne hk] at h
      obtain ⟨as₁, as₂, rfl, h₁, h₂⟩ := mine_split h
      exact ⟨(k', c) :: as₁, as₂, rfl, by rw [mine_cons_of_ne hk, h₁], h₂⟩

/-- `M` is the machines `L k`, side by side: an input that names `k` does to the part of `k` what
`L k` does, emits its events, marked `k`, and leaves the other parts alone. -/
structure Splits (M : Mealy σ (κ × β) ε) (L : κ → Mealy τ β ε) (view : σ → κ → τ)
    (tag : ε → κ) : Prop where
  hit : ∀ s k b, view (M.step s (k, b)).1 k = ((L k).step (view s k) b).1
  miss : ∀ s k b k', k ≠ k' → view (M.step s (k, b)).1 k' = view s k'
  events : ∀ s k b, (M.step s (k, b)).2 = ((L k).step (view s k) b).2
  marked : ∀ t k b, ∀ e ∈ ((L k).step t b).2, tag e = k

variable {M : Mealy σ (κ × β) ε} {L : κ → Mealy τ β ε} {view : σ → κ → τ} {tag : ε → κ}

theorem Splits.after (h : M.Splits L view tag) (k : κ) :
    ∀ (s : σ) (as : List (κ × β)), view (M.after s as) k = (L k).after (view s k) (mine k as)
  | _, [] => rfl
  | s, (k', b) :: as => by
    rw [after_cons, h.after k]
    by_cases hk : k' = k
    · subst hk
      rw [mine_cons_self, after_cons, h.hit]
    · rw [mine_cons_of_ne hk, h.miss s k' b k hk]

theorem Splits.output (h : M.Splits L view tag) (k : κ) :
    ∀ (s : σ) (as : List (κ × β)),
      (M.output s as).filter (tag · = k) = (L k).output (view s k) (mine k as)
  | _, [] => rfl
  | s, (k', b) :: as => by
    rw [output_cons, List.filter_append, h.output k, h.events]
    by_cases hk : k' = k
    · subst hk
      rw [mine_cons_self, output_cons, h.hit,
        List.filter_eq_self.2 fun e he => decide_eq_true (h.marked _ _ _ e he)]
    · rw [mine_cons_of_ne hk, h.miss s k' b k hk, List.filter_eq_nil_iff.2 fun e he => by
        simpa [h.marked _ _ _ e he] using hk, List.nil_append]

omit [DecidableEq κ] in
/-- An event is marked with the name of an input. -/
theorem Splits.tag_mem (h : M.Splits L view tag) {e : ε} :
    ∀ (s : σ) (as : List (κ × β)), e ∈ M.output s as → tag e ∈ as.map Prod.fst
  | _, [], he => by cases he
  | s, (k, b) :: as, he => by
    rw [output_cons, List.mem_append, h.events] at he
    rcases he with he | he
    · rw [h.marked _ k b e he]
      exact List.mem_cons_self
    · exact List.mem_cons_of_mem _ (h.tag_mem _ as he)

end Family

end Mealy

end Lib
