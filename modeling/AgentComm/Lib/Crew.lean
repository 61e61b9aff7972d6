import AgentComm.Lib.Lts
import Mathlib.Logic.Function.Basic

/-!
# Threads that start through a gate

Some threads of a transition system do its work. A thread starts while a gate is open, which it
shuts behind it, and has ended for good once it ends. When the gate is only ever opened with no
thread alive, one thread at a time is alive, and the work that is still to come of the threads
started so far is all done by one of them.

Where a field of the state names the thread that was started last, it is the one that goes on, if
any does.
-/

namespace Lib

inductive Standing
  | unborn
  | live
  | ended
deriving DecidableEq

namespace Standing

variable {ι β : Type*} (isOver : β → Bool)

/-- The standing of a thread by its state, if it has started. -/
def of : Option β → Standing
  | none => unborn
  | some b => if isOver b then ended else live

variable {isOver} {f : ι → Option β} {b b' : β} {k : ι} [DecidableEq ι]

/-- One live thread takes a step. -/
theorem of_update (hk : f k = some b) (hb : isOver b = false) (k' : ι) :
    of isOver (Function.update f k (some b') k') = of isOver (f k')
      ∨ (of isOver (f k') = live ∧ of isOver (Function.update f k (some b') k') = ended) := by
  rw [Function.update_apply]
  split_ifs with h
  · rw [h, hk]
    cases hb' : isOver b' <;> simp [of, hb, hb']
  · exact .inl rfl

end Standing

/-- The threads `ι` of a transition system: what each is at in a state, which of them an action
starts, and whose work it is. -/
structure Crew {σ α ε : Type*} (L : Lts σ α ε) (ι : Type*) where
  standing : σ → ι → Standing
  isOpen : σ → Prop
  opens : α → Bool
  starts : α → Option ι
  work : α → Option ι
  step_cases : ∀ {s t : σ} {a : α} {es : List ε}, L.step s a = some (t, es) →
    (∀ k, standing t k = standing s k ∨ (standing s k = .live ∧ standing t k = .ended))
      ∨ (isOpen s ∧ ¬ isOpen t ∧ ∃ k, starts a = some k ∧ standing s k = .unborn
        ∧ ∀ k', k' ≠ k → standing t k' = standing s k')
  opens_of_step : ∀ {s t : σ} {a : α} {es : List ε}, L.step s a = some (t, es) →
    isOpen t → isOpen s ∨ opens a
  live_of_work : ∀ {s t : σ} {a : α} {es : List ε} {k : ι}, L.step s a = some (t, es) →
    work a = some k → standing s k = .live

namespace Crew

variable {σ α ε ι : Type*} {L : Lts σ α ε} (c : Crew L ι) {s t : σ} {a : α} {es tr : List ε} {k : ι}

/-- The gate is not opened while a thread is alive. -/
def Alone (s : σ) (a : α) : Prop := c.opens a → ∀ k, c.standing s k ≠ .live

/-- The system comes from `s` to `t`, last with work of `k`. -/
def WorksBy (s : σ) (k : ι) (t : σ) : Prop :=
  ∃ tr u a es, L.Free s tr u ∧ L.step u a = some (t, es) ∧ c.work a = some k

/-- However the system goes on, all that the threads started so far still do is done by one. -/
def OneWorks (s : σ) : Prop := ∀ k k' t u, c.standing s k ≠ .unborn → c.standing s k' ≠ .unborn →
  c.WorksBy s k t → c.WorksBy t k' u → k = k'

/-- One thread at most is alive, and none while the gate is open. -/
structure Solo (s : σ) : Prop where
  alone : ∀ k k', c.standing s k = .live → c.standing s k' = .live → k = k'
  none_of_open : c.isOpen s → ∀ k, c.standing s k ≠ .live

variable {c}

theorem Solo.of_unborn (h : ∀ k, c.standing s k = .unborn) : c.Solo s := by
  have hnone : ∀ k, c.standing s k ≠ .live := by
    intro k hk
    rw [h k] at hk
    cases hk
  exact ⟨fun k _ hk => absurd hk (hnone k), fun _ => hnone⟩

/-- A thread that has started is not alive later unless it is now. -/
theorem started_of_step (hs : L.step s a = some (t, es)) (hk : c.standing s k ≠ .unborn) :
    c.standing t k ≠ .unborn ∧ (c.standing t k = .live → c.standing s k = .live) := by
  rcases c.step_cases hs with h | ⟨-, -, k', -, hborn, h⟩
  · rcases h k with h | ⟨hlive, hended⟩
    · rw [h]
      exact ⟨hk, id⟩
    · rw [hended]
      exact ⟨fun h => (by cases h), fun _ => hlive⟩
  · have hne : k ≠ k' := by
      rintro rfl
      exact hk hborn
    rw [h k hne]
    exact ⟨hk, id⟩

theorem started_of_free (h : L.Free s tr t) (hk : c.standing s k ≠ .unborn) :
    c.standing t k ≠ .unborn ∧ (c.standing t k = .live → c.standing s k = .live) :=
  h.invariant (I := fun _ t => c.standing t k ≠ .unborn
    ∧ (c.standing t k = .live → c.standing s k = .live)) ⟨hk, id⟩ fun hI _ hs =>
      have hstep := started_of_step hs hI.1
      ⟨hstep.1, fun hlive => hI.2 (hstep.2 hlive)⟩

theorem WorksBy.live (h : c.WorksBy s k t) (hk : c.standing s k ≠ .unborn) :
    c.standing s k = .live := by
  obtain ⟨tr, u, a, es, hfree, hs, hwork⟩ := h
  exact (started_of_free hfree hk).2 (c.live_of_work hs hwork)

theorem WorksBy.free (h : c.WorksBy s k t) : ∃ tr, L.Free s tr t := by
  obtain ⟨tr, u, a, es, hfree, hs, -⟩ := h
  exact ⟨_, hfree.snoc trivial hs⟩

theorem Solo.oneWorks (h : c.Solo s) : c.OneWorks s := by
  intro k k' t u hk hk' hw hw'
  obtain ⟨tr, hfree⟩ := hw.free
  obtain ⟨hborn, hback⟩ := started_of_free hfree hk'
  exact h.alone k k' (hw.live hk) (hback (hw'.live hborn))

theorem Solo.step (h : c.Solo s) (hok : c.Alone s a) (hs : L.step s a = some (t, es)) :
    c.Solo t := by
  rcases c.step_cases hs with hkeep | ⟨hopen, hshut, k, -, -, hother⟩
  · have hback : ∀ k, c.standing t k = .live → c.standing s k = .live := by
      intro k hk
      rcases hkeep k with heq | ⟨-, hended⟩
      · rw [← heq, hk]
      · rw [hended] at hk
        cases hk
    refine ⟨fun k k' hk hk' => h.alone k k' (hback k hk) (hback k' hk'), fun ht k hk => ?_⟩
    rcases c.opens_of_step hs ht with hopen | hopens
    · exact h.none_of_open hopen k (hback k hk)
    · exact hok hopens k (hback k hk)
  · have honly : ∀ k', c.standing t k' = .live → k' = k := by
      intro k' hk'
      by_contra hne
      rw [hother k' hne] at hk'
      exact h.none_of_open hopen k' hk'
    exact ⟨fun k₁ k₂ h₁ h₂ => (honly k₁ h₁).trans (honly k₂ h₂).symm, fun ht => absurd ht hshut⟩

theorem solo_of_run (h : L.Run c.Alone s tr t) (hsolo : c.Solo s) : c.Solo t :=
  h.invariant (I := fun _ t => c.Solo t) hsolo fun hI hok hs => hI.step hok hs

/-! ### Runs that can be checked -/

section Both

variable [DecidableEq ι] {q : σ → Bool} {as bs : List α} {b : α} {k' : ι}

variable (c) (q) (as bs : List α) (a b : α) in
/-- After `as` the system is at `q`, and goes on with `bs` and then with `a` and `b`, which are
work of two threads that have started by then. -/
def bothWork (s : σ) : Bool :=
  (L.exec s as).any fun r => q r.1 && (L.exec r.1 bs).any fun r₁ =>
    (L.step r₁.1 a).any fun r₂ => (L.step r₂.1 b).isSome
      && (c.work a).any fun k => (c.work b).any fun k' => decide (k ≠ k')
        && decide (c.standing r.1 k ≠ .unborn) && decide (c.standing r.1 k' ≠ .unborn)

theorem not_oneWorks_of_bothWork (h : c.bothWork q as bs a b s = true) :
    ∃ tr t, L.Free s tr t ∧ q t = true ∧ ¬ c.OneWorks t := by
  simp only [bothWork, Option.any_eq_true, Bool.and_eq_true, Option.isSome_iff_exists,
    decide_eq_true_eq] at h
  obtain ⟨⟨t, tr⟩, hexec, hq, ⟨u, tr'⟩, hexec', ⟨v, es⟩, ha, ⟨⟨w, es'⟩, hb⟩, k, hk, k', hk',
    ⟨hne, hborn⟩, hborn'⟩ := h
  refine ⟨tr, t, Lts.run_of_exec (fun _ _ _ => trivial) hexec, hq, fun hone => hne ?_⟩
  have hfree : L.Free t tr' u := Lts.run_of_exec (fun _ _ _ => trivial) hexec'
  exact hone k k' v w hborn hborn' ⟨tr', u, a, es, hfree, ha, hk⟩
    ⟨[], v, b, es', .refl, hb, hk'⟩

end Both

section Checked

variable {c : Crew L ℕ} {n : ℕ}

variable (c n) in
/-- The action starts threads below `n` only, and opens the gate only if none of these is alive. -/
def checked (s : σ) (a : α) : Bool :=
  (c.starts a).all (· < n)
    && (!c.opens a || (List.range n).all fun k => decide (c.standing s k ≠ .live))

theorem unborn_of_step (h : ∀ k, n ≤ k → c.standing s k = .unborn)
    (hcheck : c.checked n s a = true) (hs : L.step s a = some (t, es)) :
    ∀ k, n ≤ k → c.standing t k = .unborn := by
  intro k hk
  rcases c.step_cases hs with hkeep | ⟨-, -, k', hstart, -, hother⟩
  · rcases hkeep k with heq | ⟨hlive, -⟩
    · rw [heq, h k hk]
    · rw [h k hk] at hlive
      cases hlive
  · have hlt : k' < n := by
      simp only [checked, hstart, Option.all_some, Bool.and_eq_true, decide_eq_true_eq] at hcheck
      exact hcheck.1
    rw [hother k (by omega), h k hk]

theorem alone_of_checked (h : ∀ k, n ≤ k → c.standing s k = .unborn)
    (hcheck : c.checked n s a = true) : c.Alone s a := by
  intro hopens k
  simp only [checked, hopens, Bool.not_true, Bool.false_or, Bool.and_eq_true, List.all_eq_true,
    List.mem_range, decide_eq_true_eq] at hcheck
  by_cases hk : k < n
  · exact hcheck.2 k hk
  · rw [h k (by omega)]
    exact fun h => by cases h

theorem run_of_checked {as : List α} (h : L.execIf (c.checked n) s as = some (t, tr))
    (hs : ∀ k, n ≤ k → c.standing s k = .unborn) : L.Run c.Alone s tr t :=
  Lts.run_of_execIf (I := fun s => ∀ k, n ≤ k → c.standing s k = .unborn) hs
    (fun _ _ _ _ _ hI hcheck hs => ⟨alone_of_checked hI hcheck, unborn_of_step hI hcheck hs⟩) h

end Checked

end Crew

/-! ### Threads that a field names -/

section Names

variable {β : Type*}

/-- Every thread that was started is where `P` holds. -/
def All (P : β → Prop) (f : ℕ → Option β) : Prop := ∀ k b, f k = some b → P b

/-- The thread that the field names, if it names one, was started and is where `P` holds. -/
def IsAt (P : β → Prop) (t : Option ℕ) (f : ℕ → Option β) : Prop :=
  ∀ k, t = some k → ∃ b, f k = some b ∧ P b

/-- The one thread that goes on, if any does, is the one that the field names. -/
def Names (isOver : β → Bool) (t : Option ℕ) (f : ℕ → Option β) : Prop :=
  ∀ k b, f k = some b → isOver b = false → t = some k

variable {P : β → Prop} {isOver : β → Bool} {t : Option ℕ} {f : ℕ → Option β} {b b' : β} {k : ℕ}

theorem All.update (h : All P f) (hb : P b) : All P (Function.update f k (some b)) := by
  intro k' b' hk'
  by_cases hkk : k' = k
  · rw [hkk, Function.update_self, Option.some.injEq] at hk'
    rw [← hk']
    exact hb
  · rw [Function.update_of_ne hkk] at hk'
    exact h k' b' hk'

theorem IsAt.update (h : IsAt P t f) (hb : P b) : IsAt P t (Function.update f k (some b)) := by
  intro k' hk'
  by_cases hkk : k' = k
  · rw [hkk]
    exact ⟨b, Function.update_self .., hb⟩
  · obtain ⟨b', hb', hP⟩ := h k' hk'
    exact ⟨b', (Function.update_of_ne hkk ..).trans hb', hP⟩

theorem IsAt.start (hb : P b) : IsAt P (some k) (Function.update f k (some b)) := by
  intro k' hk'
  obtain rfl := Option.some.inj hk'
  exact ⟨b, Function.update_self .., hb⟩

theorem All.not_live (h : All (fun b => isOver b = true) f) (hk : f k = some b)
    (hb : isOver b = false) : False := by
  have hover : isOver b = true := h k b hk
  rw [hb] at hover
  cases hover

theorem All.names (h : All (fun b => isOver b = true) f) : Names isOver t f :=
  fun _ _ hk hb => (h.not_live hk hb).elim

/-- A thread is started with no other going on, and is named. -/
theorem All.start (h : All (fun b => isOver b = true) f) :
    Names isOver (some k) (Function.update f k (some b)) := by
  intro k' b' hk' hb'
  by_cases hkk : k' = k
  · rw [hkk]
  · rw [Function.update_of_ne hkk] at hk'
    exact (h.not_live hk' hb').elim

/-- The thread that goes on takes a step. -/
theorem Names.update (h : Names isOver t f) (hk : f k = some b) (hb : isOver b = false) :
    Names isOver t (Function.update f k (some b')) := by
  intro k' b'' hk' hb''
  by_cases hkk : k' = k
  · rw [hkk, h k b hk hb]
  · rw [Function.update_of_ne hkk] at hk'
    exact h k' b'' hk' hb''

/-- When the thread that is named has ended, all have. -/
theorem Names.all (h : Names isOver t f)
    (ht : ∀ k b, t = some k → f k = some b → isOver b = true) :
    All (fun b => isOver b = true) f := by
  intro k b hk
  by_contra hb
  have hlive := Bool.eq_false_iff.2 hb
  exact hb (ht k b (h k b hk hlive) hk)

/-- The thread that goes on takes its last step. -/
theorem Names.all_update (h : Names isOver t f) (hk : f k = some b) (hb : isOver b = false)
    (hb' : isOver b' = true) : All (fun b => isOver b = true) (Function.update f k (some b')) := by
  intro k' b'' hk'
  by_cases hkk : k' = k
  · rw [hkk, Function.update_self, Option.some.injEq] at hk'
    rw [← hk', hb']
  · rw [Function.update_of_ne hkk] at hk'
    by_contra hlive
    have hname := h k' b'' hk' (Bool.eq_false_iff.2 hlive)
    rw [h k b hk hb] at hname
    exact hkk (Option.some.inj hname).symm

end Names

end Lib
