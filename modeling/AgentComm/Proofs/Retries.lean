import AgentComm.Transport.Delivery

/-!
# The calls and sleeps of a retried call

`retry_call` calls its function until an outcome is not a transport error, or as often as the
policy allows, and sleeps between any two calls.
-/

namespace AgentComm

variable {α : Type} {func : ℕ → Except Exc α} {p : RetryPolicy}

/-- A failure that `retry_call` tries again after. -/
def Retried (x : Except Exc α) : Prop := ∃ e, x = .error e ∧ e.isTransportError = true

theorem not_retried_ok {v : α} : ¬ Retried (.ok v : Except Exc α) := by
  rintro ⟨e, he, -⟩
  cases he

@[simp] theorem gaveUp_kind : p.gaveUp.kind = .deliveryError := rfl

/-- The calls from `attempt` up to `k` later, each but the last with the sleep after it. -/
def triesFrom (p : RetryPolicy) (attempt k : ℕ) : List RetryAct :=
  ((List.range' attempt k).flatMap fun i =>
    [.call i, .sleep (min (p.baseDelay * p.backoffFactor ^ (i - 1)) p.maxDelay)])
    ++ [.call (attempt + k)]

theorem triesFrom_succ (attempt k : ℕ) : triesFrom p attempt (k + 1)
    = .call attempt :: .sleep (p.delayFor attempt) :: triesFrom p (attempt + 1) k := by
  have hlast : attempt + (k + 1) = attempt + 1 + k := by omega
  simp only [triesFrom, List.range'_succ, List.flatMap_cons, hlast]
  rfl

/-- A call whose failure is tried again after, with calls left, then the rest of the loop. -/
theorem retryActsFrom_retried {left attempt : ℕ} {last : Option Exc} {e : Exc}
    (he : func attempt = .error e) (ht : e.isTransportError = true)
    (hmore : (attempt : ℤ) < p.maxAttempts) :
    retryActsFrom func p (left + 1) attempt last
      = ((retryActsFrom func p left (attempt + 1) (some e)).1,
        .call attempt :: .sleep (p.delayFor attempt)
          :: (retryActsFrom func p left (attempt + 1) (some e)).2) := by
  rw [retryActsFrom]
  simp only [he, ht, if_true, if_neg (not_le.2 hmore)]

theorem retryActsFrom_settled {left attempt : ℕ} {last : Option Exc}
    (h : ¬ Retried (func attempt)) : retryActsFrom func p (left + 1) attempt last
      = ((func attempt).mapError fun e => (e, none), [.call attempt]) := by
  rw [retryActsFrom]
  rcases hf : func attempt with e | v
  · have ht : ¬ e.isTransportError = true := fun ht => h ⟨e, hf, ht⟩
    simp only [if_neg ht]
    rfl
  · rfl

variable (func p) in
/-- The loop stops at the first outcome that is not tried again after. -/
theorem retryActsFrom_stops : ∀ (k left attempt : ℕ) (last : Option Exc),
    (attempt : ℤ) + left = p.maxAttempts + 1 → k < left →
    (∀ i, attempt ≤ i → i < attempt + k → Retried (func i)) → ¬ Retried (func (attempt + k)) →
    retryActsFrom func p left attempt last
      = ((func (attempt + k)).mapError fun e => (e, none), triesFrom p attempt k)
  | _, 0, _, _, _, hk, _, _ => absurd hk (by omega)
  | 0, left + 1, attempt, last, _, _, _, hno => retryActsFrom_settled hno
  | k + 1, left + 1, attempt, last, hleft, hk, hall, hno => by
    obtain ⟨e, he, ht⟩ := hall attempt le_rfl (by omega)
    have hlast : attempt + (k + 1) = attempt + 1 + k := by omega
    have hrest := retryActsFrom_stops k left (attempt + 1) (some e) (by push_cast at hleft ⊢; omega)
      (by omega) (fun i h h' => hall i (by omega) (by omega)) (hlast ▸ hno)
    rw [retryActsFrom_retried he ht (by push_cast at hleft; omega), hrest, triesFrom_succ, hlast]

variable (func p) in
/-- With every call failed so that it is tried again after, the last failure is the cause. -/
theorem retryActsFrom_gives_up : ∀ (k left attempt : ℕ) (last : Option Exc),
    (attempt : ℤ) + left = p.maxAttempts + 1 → left = k + 1 →
    (∀ i, attempt ≤ i → i < attempt + left → Retried (func i)) →
    ∃ e, func (attempt + k) = .error e ∧ retryActsFrom func p left attempt last
      = (.error (p.gaveUp, some e), triesFrom p attempt k)
  | 0, _, attempt, last, hleft, rfl, hall => by
    obtain ⟨e, he, ht⟩ := hall attempt le_rfl (by omega)
    refine ⟨e, he, ?_⟩
    rw [retryActsFrom]
    simp only [he, ht, if_true]
    rw [if_pos (by push_cast at hleft; omega)]
    rfl
  | k + 1, _, attempt, last, hleft, rfl, hall => by
    obtain ⟨e, he, ht⟩ := hall attempt le_rfl (by omega)
    have hlast : attempt + (k + 1) = attempt + 1 + k := by omega
    obtain ⟨e', he', hrest⟩ := retryActsFrom_gives_up k (k + 1) (attempt + 1) (some e)
      (by push_cast at hleft ⊢; omega) rfl fun i h h' => hall i (by omega) (by omega)
    refine ⟨e', hlast ▸ he', ?_⟩
    rw [retryActsFrom_retried he ht (by push_cast at hleft; omega), hrest, triesFrom_succ]

/-! ### The calls and the sleeps -/

@[simp] theorem call?_call (i : ℕ) : (RetryAct.call i).call? = some i := rfl

@[simp] theorem call?_sleep (d : ℚ) : (RetryAct.sleep d).call? = none := rfl

@[simp] theorem sleep?_call (i : ℕ) : (RetryAct.call i).sleep? = none := rfl

@[simp] theorem sleep?_sleep (d : ℚ) : (RetryAct.sleep d).sleep? = some d := rfl

/-- The first outcome that is not tried again after. -/
structure SettlesAt (func : ℕ → Except Exc α) (j : ℕ) : Prop where
  first : 1 ≤ j
  settled : ¬ Retried (func j)
  before : ∀ i, 1 ≤ i → i < j → Retried (func i)

/-- Where no outcome up to `n` is final, all of them are tried again after. -/
theorem all_retried {n : ℤ} (h : ∀ j : ℕ, SettlesAt func j → n < j) :
    ∀ i : ℕ, 1 ≤ i → (i : ℤ) ≤ n → Retried (func i) := by
  intro i
  induction i using Nat.strong_induction_on with
  | _ i ih =>
    intro hone hi
    by_contra hno
    have hlate := h i ⟨hone, hno, fun j hj hji => ih j hji hj (by omega)⟩
    omega

/-- The acts of `j` calls: none, or sleeps between any two. -/
def tries (p : RetryPolicy) : ℕ → List RetryAct
  | 0 => []
  | j + 1 => triesFrom p 1 j

/-- The failure of the last of `n` calls. -/
def lastFailure (func : ℕ → Except Exc α) : ℕ → Option Exc
  | 0 => none
  | n + 1 => match func (n + 1) with
    | .error e => some e
    | .ok _ => none

/-- What some of the acts come to. -/
theorem filterMap_triesFrom {β : Type} (f : RetryAct → Option β) (attempt k : ℕ) :
    (triesFrom p attempt k).filterMap f = ((List.range' attempt k).flatMap fun i =>
      (f (.call i)).toList ++ (f (.sleep (p.delayFor i))).toList)
        ++ (f (.call (attempt + k))).toList := by
  have htry : ∀ i, [RetryAct.call i, .sleep (p.delayFor i)].filterMap f
      = (f (.call i)).toList ++ (f (.sleep (p.delayFor i))).toList := fun i => by
    rcases hc : f (.call i) with _ | c <;> rcases hs : f (.sleep (p.delayFor i)) with _ | d <;>
      simp [hc, hs]
  have hlast : [RetryAct.call (attempt + k)].filterMap f = (f (.call (attempt + k))).toList := by
    rcases hc : f (.call (attempt + k)) with _ | c <;> simp [hc]
  rw [triesFrom, List.filterMap_append, List.filterMap_flatMap, hlast]
  congr 2
  exact funext htry

theorem calls_tries (j : ℕ) : (tries p j).filterMap RetryAct.call? = List.range' 1 j := by
  rcases j with _ | j
  · rfl
  · rw [tries, filterMap_triesFrom, List.range'_concat]
    simp

theorem sleeps_tries (j : ℕ) :
    (tries p j).filterMap RetryAct.sleep? = (List.range' 1 (j - 1)).map p.delayFor := by
  rcases j with _ | j
  · rfl
  · rw [tries, filterMap_triesFrom]
    simp [List.map_eq_flatMap]

/-- The loop ends at the first outcome that is final. -/
theorem retryActs_settles {j : ℕ} (h : SettlesAt func j) (hj : (j : ℤ) ≤ p.maxAttempts) :
    retryActs func p = ((func j).mapError fun e => (e, none), tries p j) := by
  obtain ⟨k, rfl⟩ : ∃ k, j = k + 1 := ⟨j - 1, by have := h.first; omega⟩
  have hlast : 1 + k = k + 1 := by omega
  have hstop := retryActsFrom_stops func p k p.maxAttempts.toNat 1 none
    (by omega) (by omega) (fun i hi hik => h.before i hi (by omega)) (hlast ▸ h.settled)
  rw [hlast] at hstop
  rw [retryActs, hstop]
  rfl

/-- Where none of those it allows is, the loop gives up after the last. -/
theorem retryActs_exhausted (h : ∀ i : ℕ, 1 ≤ i → (i : ℤ) ≤ p.maxAttempts → Retried (func i)) :
    retryActs func p = (.error (p.gaveUp, lastFailure func p.maxAttempts.toNat),
      tries p p.maxAttempts.toNat) := by
  rcases hn : p.maxAttempts.toNat with _ | k
  · rw [retryActs, hn]
    rfl
  · obtain ⟨e, he, hres⟩ := retryActsFrom_gives_up func p k (k + 1) 1 none
      (by omega) rfl fun i hi hik => h i hi (by omega)
    have hcause : lastFailure func (k + 1) = some e := by
      have hlast : 1 + k = k + 1 := by omega
      rw [hlast] at he
      simp only [lastFailure, he]
    rw [retryActs, hn, hres, hcause]
    rfl

variable (func p) in
/-- `retry_call` settles at some attempt, or every attempt it allows is tried again after. -/
theorem retryCall_cases :
    (∃ j, SettlesAt func j ∧ (j : ℤ) ≤ p.maxAttempts
      ∧ retryCall func p = ((func j).mapError fun e => (e, none))
      ∧ attemptsMade func p = List.range' 1 j)
    ∨ (∀ i : ℕ, 1 ≤ i → (i : ℤ) ≤ p.maxAttempts → Retried (func i))
      ∧ (∃ c, retryCall func p = .error (p.gaveUp, c))
      ∧ attemptsMade func p = List.range' 1 p.maxAttempts.toNat := by
  by_cases h : ∃ j, SettlesAt func j ∧ (j : ℤ) ≤ p.maxAttempts
  · obtain ⟨j, hsettles, hj⟩ := h
    have hacts := retryActs_settles hsettles hj
    refine .inl ⟨j, hsettles, hj, ?_, ?_⟩
    · rw [retryCall, hacts]
    · rw [attemptsMade, hacts, calls_tries]
  · have hall : ∀ i : ℕ, 1 ≤ i → (i : ℤ) ≤ p.maxAttempts → Retried (func i) :=
      all_retried fun j hsettles => not_le.1 fun hj => h ⟨j, hsettles, hj⟩
    have hacts := retryActs_exhausted hall
    refine .inr ⟨hall, ⟨lastFailure func p.maxAttempts.toNat, ?_⟩, ?_⟩
    · rw [retryCall, hacts]
    · rw [attemptsMade, hacts, calls_tries]

/-- A first attempt that is final settles the matter. -/
theorem retryCall_first (h : SettlesAt func 1) (hn : 1 ≤ p.maxAttempts) :
    retryCall func p = ((func 1).mapError fun e => (e, none)) ∧ attemptsMade func p = [1] := by
  have hacts := retryActs_settles h hn
  constructor
  · rw [retryCall, hacts]
  · rw [attemptsMade, hacts, calls_tries]
    rfl

/-- An attempt is made when those before it failed in a way that is tried again after. -/
theorem mem_attemptsMade {i : ℕ} : i ∈ attemptsMade func p
    ↔ 1 ≤ i ∧ (i : ℤ) ≤ p.maxAttempts ∧ ∀ j, 1 ≤ j → j < i → Retried (func j) := by
  rcases retryCall_cases func p with ⟨j, hj, hle, -, hmade⟩ | ⟨hall, -, hmade⟩ <;>
    rw [hmade, List.mem_range'_1]
  · constructor
    · rintro ⟨h1, h2⟩
      exact ⟨h1, by omega, fun k hk hki => hj.before k hk (by omega)⟩
    · rintro ⟨h1, h2, hbefore⟩
      refine ⟨h1, ?_⟩
      by_contra hlate
      exact hj.settled (hbefore j hj.first (by omega))
  · constructor
    · rintro ⟨h1, h2⟩
      exact ⟨h1, by omega, fun k hk hki => hall k hk (by omega)⟩
    · rintro ⟨h1, h2, -⟩
      exact ⟨h1, by omega⟩

variable (func p) in
/-- Attempts are made one after the other, and no more of them than the policy allows. -/
theorem attemptsMade_range :
    ∃ k, k ≤ p.maxAttempts.toNat ∧ attemptsMade func p = List.range' 1 k := by
  rcases retryCall_cases func p with ⟨j, -, hle, -, hmade⟩ | ⟨-, -, hmade⟩
  · exact ⟨j, by omega, hmade⟩
  · exact ⟨_, le_rfl, hmade⟩

theorem attemptsMade_length_le : (attemptsMade func p).length ≤ p.maxAttempts.toNat := by
  obtain ⟨k, hk, hmade⟩ := attemptsMade_range func p
  rw [hmade, List.length_range']
  exact hk

/-! ### The outcome of every sequence of calls -/

variable (p) in
/-- `retry_call` ended with `result` after `j` calls, and as many sleeps less one. -/
structure DoneAfter (j : ℕ) (result : Except (Exc × Option Exc) α)
    (r : Except (Exc × Option Exc) α × List RetryAct) : Prop where
  result : r.1 = result
  acts : r.2 = tries p j
  calls : r.2.filterMap RetryAct.call? = List.range' 1 j
  sleeps : r.2.filterMap RetryAct.sleep? = (List.range' 1 (j - 1)).map p.delayFor

theorem DoneAfter.of_acts {j : ℕ} {result : Except (Exc × Option Exc) α} :
    DoneAfter p j result (result, tries p j) :=
  ⟨rfl, rfl, calls_tries j, sleeps_tries j⟩

variable (func p) in
/-- `retry_call` stops at the first outcome that is not a transport error and passes it on, or,
where the policy does not allow as many calls, gives up after the last it allows. -/
theorem retry_call_exact :
    (∀ j : ℕ, SettlesAt func j → (j : ℤ) ≤ p.maxAttempts →
      DoneAfter p j ((func j).mapError fun e => (e, none)) (retryActs func p))
    ∧ ((∀ j : ℕ, SettlesAt func j → p.maxAttempts < j) →
      DoneAfter p p.maxAttempts.toNat (.error (p.gaveUp, lastFailure func p.maxAttempts.toNat))
        (retryActs func p)) := by
  constructor
  · intro j hsettles hj
    rw [retryActs_settles hsettles hj]
    exact .of_acts
  · intro hnone
    rw [retryActs_exhausted (all_retried hnone)]
    exact .of_acts

end AgentComm
