import Mathlib.Data.List.Basic

/-!
# Transition systems that emit events

A step is a partial function of the state and an action, and says which events it emits. A run
is a sequence of steps that all meet a condition; an invariant may speak of the events emitted
so far as well as of the state.
-/

namespace Lib

/-- A transition system with states `σ`, actions `α` and events `ε`. -/
structure Lts (σ α ε : Type*) where
  step : σ → α → Option (σ × List ε)

namespace Lts

variable {σ α ε : Type*} (L : Lts σ α ε)

/-- Steps that all meet `ok` lead from `s` to the state, emitting the events. -/
inductive Run (ok : σ → α → Prop) (s : σ) : List ε → σ → Prop
  | refl : Run ok s [] s
  | snoc {tr es t a u} (h : Run ok s tr t) (hok : ok t a) (hs : L.step t a = some (u, es)) :
      Run ok s (tr ++ es) u

/-- Runs with no condition on their steps. -/
abbrev Free : σ → List ε → σ → Prop := L.Run fun _ _ => True

/-- The states a run from `s` can end in. -/
def Reachable (s t : σ) : Prop := ∃ tr, L.Free s tr t

variable {L} {ok : σ → α → Prop} {s t u : σ} {tr tr' : List ε}

/-- What holds at the start and is kept by every step that meets the condition holds of every
run. -/
theorem Run.invariant {I : List ε → σ → Prop} (h : L.Run ok s tr t) (h0 : I [] s)
    (hstep : ∀ {tr t a u es}, I tr t → ok t a → L.step t a = some (u, es) → I (tr ++ es) u) :
    I tr t := by
  induction h with
  | refl => exact h0
  | snoc _ hok hs ih => exact hstep ih hok hs

theorem Run.single {a : α} (hok : ok s a) (hs : L.step s a = some (t, tr)) : L.Run ok s tr t := by
  simpa using Run.snoc (L := L) .refl hok hs

theorem Run.trans (h : L.Run ok s tr t) (h' : L.Run ok t tr' u) : L.Run ok s (tr ++ tr') u := by
  induction h' with
  | refl => simpa using h
  | snoc _ hok hs ih =>
    rw [← List.append_assoc]
    exact ih.snoc hok hs

theorem Run.free (h : L.Run ok s tr t) : L.Free s tr t := by
  induction h with
  | refl => exact .refl
  | snoc _ _ hs ih => exact ih.snoc trivial hs

/-- Take the actions in order, while each passes a check. -/
def execIf (L : Lts σ α ε) (p : σ → α → Bool) : σ → List α → Option (σ × List ε)
  | s, [] => some (s, [])
  | s, a :: as =>
    match p s a, L.step s a with
    | true, some (t, es) => (execIf L p t as).map fun r => (r.1, es ++ r.2)
    | _, _ => none

abbrev exec (L : Lts σ α ε) : σ → List α → Option (σ × List ε) := L.execIf fun _ _ => true

variable {p : σ → α → Bool}

theorem execIf_cons {a : α} {as : List α} (h : L.execIf p s (a :: as) = some (t, tr)) :
    ∃ u es tr', p s a = true ∧ L.step s a = some (u, es) ∧ L.execIf p u as = some (t, tr')
      ∧ tr = es ++ tr' := by
  simp only [execIf] at h
  split at h
  · obtain ⟨⟨v, tr'⟩, hr, hv⟩ := Option.map_eq_some_iff.1 h
    cases hv
    exact ⟨_, _, tr', by assumption, by assumption, hr, rfl⟩
  · cases h

/-- Actions taken in order make a run, if the check and an invariant have each of them meet the
condition. -/
theorem run_of_execIf {I : σ → Prop} : ∀ {as : List α} {s t : σ} {tr : List ε}, I s →
    (∀ a ∈ as, ∀ {u v es}, I u → p u a = true → L.step u a = some (v, es) → ok u a ∧ I v) →
    L.execIf p s as = some (t, tr) → L.Run ok s tr t
  | [], s, t, tr, _, _, h => by
    cases h
    exact .refl
  | a :: as, s, t, tr, hI, hkeep, h => by
    obtain ⟨u, es, tr', hp, hs, hr, rfl⟩ := execIf_cons h
    obtain ⟨hok, hu⟩ := hkeep a List.mem_cons_self hI hp hs
    exact (Run.single hok hs).trans
      (run_of_execIf hu (fun b hb => hkeep b (List.mem_cons_of_mem _ hb)) hr)

theorem run_of_exec {l : List α} (hok : ∀ a ∈ l, ∀ u, ok u a)
    (h : L.exec s l = some (t, tr)) : L.Run ok s tr t :=
  run_of_execIf (I := fun _ => True) trivial (fun a ha u _ _ _ _ _ => ⟨hok a ha u, trivial⟩) h

section Watch

variable {γ : Type*} (note : γ → σ → α → σ → γ)

variable (L) in
/-- The system beside an observer who keeps notes of its steps. -/
def watch : Lts (σ × γ) α ε where
  step p a := (L.step p.1 a).map fun r => ((r.1, note p.2 p.1 a r.1), r.2)

variable {note}

theorem watch_step {p q : σ × γ} {a : α} {es : List ε} :
    (L.watch note).step p a = some (q, es)
      ↔ L.step p.1 a = some (q.1, es) ∧ q.2 = note p.2 p.1 a q.1 := by
  obtain ⟨t, g⟩ := q
  simp only [watch, Option.map_eq_some_iff, Prod.mk.injEq, Prod.exists]
  constructor
  · rintro ⟨t', es', hs, ⟨rfl, rfl⟩, rfl⟩
    exact ⟨hs, rfl⟩
  · rintro ⟨hs, rfl⟩
    exact ⟨t, es, hs, ⟨rfl, rfl⟩, rfl⟩

end Watch

end Lts

end Lib
