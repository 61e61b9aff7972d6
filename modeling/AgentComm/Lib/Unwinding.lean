import AgentComm.Lib.Mealy

/-!
# Unwinding

An observer sees the events of some inputs of a machine. Whether other inputs can be left out
without its seeing a difference is told step by step, by a relation on the states: the inputs that
stay keep it, and one that is left out keeps it against the state it was not taken in.
-/

namespace Lib.Mealy

variable {σ α ε : Type*} (M : Mealy σ α ε)

/-- The events of the inputs that are seen, in order. -/
def seen (see : α → Bool) (s : σ) : List α → List ε
  | [] => []
  | a :: as => (if see a then (M.step s a).2 else []) ++ seen see (M.step s a).1 as

/-- Related states look the same to an observer of the inputs `see`, and stay related while the
inputs outside `keep`, if they meet `ok`, are taken in the first of them only. -/
structure Unwinds (R : σ → σ → Prop) (keep see : α → Bool) (ok : α → Prop) : Prop where
  kept : ∀ {s t a}, R s t → keep a = true → R (M.step s a).1 (M.step t a).1
  left : ∀ {s t a}, R s t → keep a = false → ok a → R (M.step s a).1 t
  view : ∀ {s t a}, R s t → see a = true → (M.step s a).2 = (M.step t a).2
  stays : ∀ {a}, see a = true → keep a = true

variable {M} {R : σ → σ → Prop} {keep see : α → Bool} {ok : α → Prop}

/-- The observer sees the same with the inputs that are not kept and without them. -/
theorem Unwinds.purge (h : M.Unwinds R keep see ok) : ∀ {as : List α} {s t : σ}, R s t →
    (∀ a ∈ as, keep a = false → ok a) →
    M.seen see s as = M.seen see t (as.filter keep)
      ∧ R (M.after s as) (M.after t (as.filter keep))
  | [], _, _, hR, _ => ⟨rfl, hR⟩
  | a :: as, s, t, hR, hok => by
    have hrest : ∀ b ∈ as, keep b = false → ok b := fun b hb => hok b (List.mem_cons_of_mem a hb)
    cases hk : keep a with
    | true =>
      obtain ⟨hseen, hafter⟩ := h.purge (h.kept hR hk) hrest
      rw [List.filter_cons_of_pos hk]
      refine ⟨?_, hafter⟩
      simp only [seen, hseen]
      cases hs : see a with
      | true => rw [h.view hR hs]
      | false => rfl
    | false =>
      have hunseen : see a = false := by
        rw [← Bool.not_eq_true]
        intro hs
        rw [h.stays hs] at hk
        cases hk
      obtain ⟨hseen, hafter⟩ := h.purge (h.left hR hk (hok a List.mem_cons_self hk)) hrest
      rw [List.filter_cons_of_neg (by simp [hk])]
      refine ⟨?_, hafter⟩
      simp only [seen, hunseen, hseen]
      rfl

end Lib.Mealy
