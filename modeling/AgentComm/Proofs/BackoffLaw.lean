import AgentComm.Proofs.Escalation

/-!
# The delays between restarts

The backoff kept after the restart number `k` of a streak is the delay in force until the next one:
the last restart kept is then the streak's own. Before the first restart of a streak no backoff is
kept, and the last restart is another streak's.
-/

namespace AgentComm.Supervision

open Lib

variable {P : Python} {fixed : PyFloat → PyStr} {cfg : SupervisionConfig} {alerting : Bool}
variable {n : PyStr} {p : Poll} {w v : Watch} {ts : List ℚ}

/-- The times of the restarts on record. -/
def restartTimes (is : List Incident) : List ℚ :=
  (is.filter (·.kind = .restarted)).map Incident.timestamp

theorem restartTimes_append (is is' : List Incident) :
    restartTimes (is ++ is') = restartTimes is ++ restartTimes is' := by
  simp [restartTimes]

theorem restartTimes_noted : restartTimes (w.noted P n p) = [] := by
  unfold Watch.noted
  split_ifs <;> rfl

theorem restartTimes_incidentsOf (mv : Move) : restartTimes (w.incidentsOf P fixed cfg n p mv)
    = if mv = .restarts then [p.now] else [] := by
  cases mv <;> simp only [Watch.incidentsOf, restartTimes_append, restartTimes_noted] <;> rfl

/-- Every `backend.start` is on record. -/
theorem length_restartTimes : ∀ (ps : List Poll) (w : Watch),
    (restartTimes (incidentsIn ((watching P fixed cfg alerting n).output w ps))).length
      = ((watching P fixed cfg alerting n).output w ps).countP Event.isStart
  | [], _ => rfl
  | p :: ps, w => by
    rw [Mealy.output_cons, incidentsIn_append, restartTimes_append, List.length_append,
      List.countP_append, length_restartTimes ps]
    simp only [watching]
    rw [incidentsIn_eventsOf, restartTimes_incidentsOf, countP_isStart]
    split_ifs <;> rfl

variable (cfg) in
/-- A streak that has restarted the service at the given times. -/
structure Backed (ts : List ℚ) (v : Watch) : Prop where
  spaced : Spaced cfg ts
  none_yet : v.state.escalated = false → ts = [] → v.backoff = none
  backoff : v.state.escalated = false → ts ≠ [] →
    v.backoff = some (backoffDelay cfg (ts.length - 1))
  last : ts ≠ [] → v.state.lastRestart = ts.getLast?

theorem Watch.Clear.backed (h : w.Clear) : Backed cfg [] w where
  spaced i t t' ht := by simp at ht
  none_yet _ _ := h.backoff
  backoff _ hne := absurd rfl hne
  last hne := absurd rfl hne

/-- A restart that is not withheld comes no sooner than the delay in force. -/
theorem Backed.restart (h : Backed cfg ts v) (hesc : v.state.escalated = false)
    (hwait : withheld v.state.lastRestart (v.backoff.getD (.finite 0)) p.now = false) :
    Backed cfg (ts ++ [p.now]) (v.afterMove P fixed cfg n p .restarts) := by
  refine ⟨spaced_snoc.2 ⟨h.spaced, fun l hl => ?_⟩, fun _ hnil => by simp at hnil, fun _ _ => ?_,
    fun _ => by simp [Watch.afterMove]⟩
  · have hne : ts ≠ [] := by
      rintro rfl
      cases hl
    rw [h.backoff hesc hne, h.last hne, hl] at hwait
    exact hwait
  · refine congrArg some ?_
    rw [List.length_append, List.length_singleton, Nat.add_sub_cancel]
    rcases ts.eq_nil_or_concat with rfl | ⟨us, u, hu⟩
    · rw [h.none_yet hesc rfl]
      simp [nextBackoff, PyFloat.truthy, backoffDelay]
    · have hpos : ts.length = ts.length - 1 + 1 := by simp [hu]
      rw [h.backoff hesc (by simp [hu]), Option.getD_some, hpos]
      rfl

/-- A poll that does not find the service healthy keeps the backoff of its streak. -/
theorem Backed.step (h : Backed cfg ts v) (hsick : v.move cfg p ≠ .recovers) :
    Backed cfg (ts ++ if v.move cfg p = .restarts then [p.now] else [])
      (v.afterMove P fixed cfg n p (v.move cfg p)) := by
  have hguard := v.move_guard cfg p
  cases hm : v.move cfg p <;> rw [hm] at hguard hsick
  case recovers => exact absurd rfl hsick
  case restarts =>
    obtain ⟨-, -, hesc, -, hwait⟩ := hguard
    exact h.restart hesc hwait
  all_goals rw [if_neg (by decide), List.append_nil]
  case escalates =>
    exact ⟨h.spaced, fun hesc => (by cases hesc), fun hesc => (by cases hesc), h.last⟩
  all_goals exact ⟨h.spaced, h.none_yet, h.backoff, h.last⟩

/-- Polls of a streak keep its backoff. -/
theorem Backed.run (hclear : w.Clear) {ps : List Poll}
    (hsick : Sick cfg (watching P fixed cfg alerting n) w ps) :
    Backed cfg (restartTimes (incidentsIn ((watching P fixed cfg alerting n).output w ps)))
      ((watching P fixed cfg alerting n).after w ps) := by
  refine Mealy.invariant (M := watching P fixed cfg alerting n)
    (I := fun _ es v => Backed cfg (restartTimes (incidentsIn es)) v)
    (C := fun v p => v.move cfg p ≠ .recovers) hclear.backed ?_ ps hsick
  intro as es v p h hok
  simp only [watching]
  rw [incidentsIn_append, restartTimes_append, incidentsIn_eventsOf, restartTimes_incidentsOf]
  exact h.step hok

/-- The first failure of a streak restarts the service, or escalates if no restart is allowed. -/
theorem first_move (hcfg : cfg.validate = .ok ()) (hclear : w.Clear)
    (hlast : ∀ l, w.state.lastRestart = some l → l ≤ p.now) (hsick : w.move cfg p ≠ .recovers) :
    w.move cfg p = if cfg.maxRestartAttempts = 0 then .escalates else .restarts := by
  have hmax := maxRestartAttempts_nonneg hcfg
  have hguard := w.move_guard cfg p
  cases hm : w.move cfg p <;> rw [hm] at hguard hsick
  case waits => exact absurd hm hclear.move_ne_waits
  case recovers => exact absurd rfl hsick
  case idles => cases hclear.escalated.symm.trans hguard.2.2
  case withholds => cases (hclear.not_withheld hlast).symm.trans hguard.2.2.2.2
  case escalates =>
    have hle := hguard.2.2.2
    rw [hclear.failures] at hle
    exact (if_pos (by omega)).symm
  case restarts =>
    have hle := hguard.2.2.2.1
    rw [hclear.failures] at hle
    exact (if_neg (by omega)).symm

/-- A restart asks the backend for a start. -/
theorem start_mem_eventsOf :
    .start n p.start ∈ w.eventsOf P fixed cfg alerting n p .restarts := by
  simp [Watch.eventsOf]

theorem escalation_mem_incidentsOf :
    w.escalation P fixed cfg n p ∈ w.incidentsOf P fixed cfg n p .escalates := by
  simp [Watch.incidentsOf]

section Supervisor

variable {base cap : ℚ} {pre mid : List (PyStr × Poll)}

variable (P fixed cfg alerting) in
/-- The times of the restarts of `n` that polls `mid` make after polls `pre`. -/
def restartsIn (n : PyStr) (pre mid : List (PyStr × Poll)) : List ℚ :=
  restartTimes (incidentsIn (streakEvents P fixed cfg alerting n pre mid))

variable (P fixed cfg alerting) in
/-- The backoff of a streak with the given base and cap. -/
structure BackoffLaw (base cap : ℚ) (n : PyStr) (pre mid : List (PyStr × Poll)) : Prop where
  counted : (restartsIn P fixed cfg alerting n pre mid).length
    = (streakEvents P fixed cfg alerting n pre mid).countP Event.isStart
  stored : ∀ k, (restartsIn P fixed cfg alerting n pre mid).length = k + 1 →
    ((polled P fixed cfg alerting (pre ++ mid)).getState n).escalated = false →
    (polled P fixed cfg alerting (pre ++ mid)).backoff.get? n
      = some (.finite (min (base * 2 ^ k) cap))
  spaced : ∀ k t t', (restartsIn P fixed cfg alerting n pre mid)[k]? = some t →
    (restartsIn P fixed cfg alerting n pre mid)[k + 1]? = some t' →
    t + min (base * 2 ^ k) cap ≤ t'
  prompt : ((Mealy.mine n (pre ++ mid)).map Poll.now).Pairwise (· ≤ ·) →
    ∀ l p r, mid = l ++ (n, p) :: r → Mealy.mine n l = [] →
      if cfg.maxRestartAttempts = 0 then
        ∃ i ∈ incidentsIn (streakEvents P fixed cfg alerting n pre (l ++ [(n, p)])),
          i.kind = .escalated ∧ i.timestamp = p.now
      else .start n p.start ∈ streakEvents P fixed cfg alerting n pre (l ++ [(n, p)])

/-- The delay after a restart doubles from the base up to the cap within a streak, and an earlier
streak's delays no restart. -/
theorem restart_backoff_law (hbase : cfg.backoffBaseSeconds = .finite base)
    (hcap : cfg.backoffMaxSeconds = .finite cap) (hcfg : cfg.validate = .ok ())
    (h : FailureStreak P fixed cfg alerting n pre mid) :
    BackoffLaw P fixed cfg alerting base cap n pre mid := by
  have hrun := Backed.run h.clear h.sick_mine
  rw [← streakEvents_eq, ← watch_polled_append] at hrun
  constructor
  case counted =>
    rw [restartsIn, streakEvents_eq]
    exact length_restartTimes _ _
  case stored =>
    intro k hk hesc
    have hne : restartsIn P fixed cfg alerting n pre mid ≠ [] := by
      rw [← List.length_pos_iff_ne_nil, hk]
      exact Nat.succ_pos k
    have hstored := hrun.backoff hesc hne
    change _ = some (backoffDelay cfg ((restartsIn P fixed cfg alerting n pre mid).length - 1))
      at hstored
    rw [hk, Nat.add_sub_cancel, backoffDelay_finite hbase hcap hcfg] at hstored
    exact hstored
  case spaced =>
    intro k t t' ht ht'
    have hgt := hrun.spaced k t t' ht ht'
    rw [backoffDelay_finite hbase hcap hcfg] at hgt
    simp only [PyFloat.gt, decide_eq_false_iff_not, not_lt] at hgt
    linarith
  case prompt =>
    intro hmono l p r hmid hl
    have hps : Mealy.mine n mid = p :: Mealy.mine n r := by simp [hmid, hl]
    have hfirst : Mealy.mine n (l ++ [(n, p)]) = [p] := by simp [hl]
    have hmove := first_move hcfg h.clear (fun t ht => ?_) (h.sick_mine [] p _ hps)
    -- the events of the first poll are those of its move
    · rw [streakEvents_eq, hfirst, Mealy.output_cons, Mealy.output_nil, List.append_nil]
      simp only [watching, hmove]
      split_ifs
      · rw [incidentsIn_eventsOf]
        exact ⟨_, escalation_mem_incidentsOf, rfl, rfl⟩
      · exact start_mem_eventsOf
    · rw [watch_polled] at ht
      obtain ⟨q, hq, rfl⟩ := lastRestart_mem _ ht
      rw [Mealy.mine_append, List.map_append, hps] at hmono
      exact (List.pairwise_append.1 hmono).2.2 _ (List.mem_map_of_mem hq) _ (by simp)

theorem restart_backoff_law_outage :
    BackoffLaw (plainPython []) (fun _ => []) (configEvery 30) true 5 300 (lit "db") []
      (outage 30) :=
  restart_backoff_law rfl rfl configEvery_valid.1 (.of_unhealthy (by decide +kernel))

end Supervisor

end AgentComm.Supervision
