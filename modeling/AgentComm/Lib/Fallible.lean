import Mathlib.Tactic.Common

/-!
# Computations that may fail

Of two computations in a row both succeed or one of them fails. So what is true of every error of
the parts is true of every error of the whole, and what each step of a fold keeps, the fold keeps.
-/

namespace Lib

variable {ε α β : Type}

/-- A peeled bind: what succeeds has a first part that does. -/
theorem bind_eq_ok {x : Except ε α} {f : α → Except ε β} {b : β} (h : x >>= f = .ok b) :
    ∃ a, x = .ok a ∧ f a = .ok b := by
  rcases x with e | a
  · cases h
  · exact ⟨a, rfl, h⟩

/-- A failed bind: one of its parts failed. -/
theorem bind_eq_error {x : Except ε α} {f : α → Except ε β} {e : ε} (h : x >>= f = .error e) :
    x = .error e ∨ ∃ a, x = .ok a ∧ f a = .error e := by
  rcases x with e' | a
  · cases h
    exact .inl rfl
  · exact .inr ⟨a, rfl, h⟩

/-- What succeeds in two parts has a first that does, and a second after it. -/
theorem bind_ok_iff {x : Except ε α} {f : α → Except ε β} :
    (∃ b, x >>= f = .ok b) ↔ ∃ a, x = .ok a ∧ ∃ b, f a = .ok b := by
  constructor
  · rintro ⟨b, h⟩
    obtain ⟨a, ha, hb⟩ := bind_eq_ok h
    exact ⟨a, ha, b, hb⟩
  · rintro ⟨a, rfl, b, hb⟩
    exact ⟨b, hb⟩

/-! ### What is true of every error -/

/-- Every error is a `Q`. -/
def Raises (Q : ε → Prop) (x : Except ε α) : Prop := ∀ e, x = .error e → Q e

variable {Q : ε → Prop}

theorem Raises.ok (a : α) : Raises Q (.ok a) := by
  rintro e ⟨⟩

theorem Raises.error {e : ε} (h : Q e) : Raises Q (.error e : Except ε α) := by
  rintro _ ⟨⟩
  exact h

theorem Raises.bind {x : Except ε α} {f : α → Except ε β} (hx : Raises Q x)
    (hf : ∀ a, Raises Q (f a)) : Raises Q (x >>= f) := by
  intro e h
  rcases bind_eq_error h with h | ⟨a, -, h⟩
  · exact hx e h
  · exact hf a e h

theorem Raises.map {x : Except ε α} (hx : Raises Q x) (f : α → β) : Raises Q (x.map f) := by
  rcases x with e | a
  · exact .error (hx e rfl)
  · exact .ok (f a)

/-! ### Folds -/

variable {f : β → α → Except ε β}

theorem Raises.foldlM : ∀ {xs : List α}, (∀ x ∈ xs, ∀ b, Raises Q (f b x)) →
    ∀ b, Raises Q (xs.foldlM f b)
  | [], _, b => .ok b
  | x :: xs, h, b => by
    rw [List.foldlM_cons]
    exact .bind (h x List.mem_cons_self b)
      (Raises.foldlM fun y hy => h y (List.mem_cons_of_mem x hy))

/-- A fold whose steps all succeed succeeds. -/
theorem foldlM_total : ∀ {xs : List α}, (∀ x ∈ xs, ∀ b, ∃ b', f b x = .ok b') →
    ∀ b, ∃ b', xs.foldlM f b = .ok b'
  | [], _, b => ⟨b, rfl⟩
  | x :: xs, h, b => by
    rw [List.foldlM_cons, bind_ok_iff]
    obtain ⟨b', hb⟩ := h x List.mem_cons_self b
    exact ⟨b', hb, foldlM_total (fun y hy => h y (List.mem_cons_of_mem x hy)) b'⟩

/-- A fold with a step that fails on everything fails. -/
theorem foldlM_fails {x : α} (hx : ∀ b b', f b x ≠ .ok b') :
    ∀ {xs : List α}, x ∈ xs → ∀ b b', xs.foldlM f b ≠ .ok b'
  | y :: xs, hm, b, b' => by
    intro h
    rw [List.foldlM_cons] at h
    obtain ⟨b₁, h₁, h⟩ := bind_eq_ok h
    rcases List.mem_cons.1 hm with rfl | hm
    · exact hx b b₁ h₁
    · exact foldlM_fails hx hm b₁ b' h

/-- What every step keeps the fold keeps. -/
theorem foldlM_keeps {I : β → Prop} : ∀ {xs : List α},
    (∀ x ∈ xs, ∀ b b', I b → f b x = .ok b' → I b') →
      ∀ {b b'}, I b → xs.foldlM f b = .ok b' → I b'
  | [], _, b, b', hb, h => by
    cases h
    exact hb
  | x :: xs, hstep, b, b', hb, h => by
    rw [List.foldlM_cons] at h
    obtain ⟨b₁, h₁, h⟩ := bind_eq_ok h
    exact foldlM_keeps (fun y hy => hstep y (List.mem_cons_of_mem x hy))
      (hstep x List.mem_cons_self b b₁ hb h₁) h

end Lib
