import AgentComm.Proofs.Streaks

/-!
# Escalation before the restarts are used up

A failed check counts towards escalation whether or not the backoff lets the supervisor restart.
The restarts of a streak are used up at its escalation exactly when each failed poll came no
sooner after the one before than the delay then in force.
-/

namespace AgentComm.Supervision

open Lib

variable {P : Python} {fixed : PyFloat → PyStr} {cfg : SupervisionConfig} {alerting : Bool}
variable {n : PyStr} {p : Poll} {w : Watch}

variable (cfg) in
/-- The delay in force after the restart number `i + 1` of a streak. -/
def backoffDelay : ℕ → PyFloat
  | 0 => cfg.backoffBaseSeconds
  | i + 1 => nextBackoff cfg (backoffDelay i)

theorem validate_backoff {base cap : ℚ} (hbase : cfg.backoffBaseSeconds = .finite base)
    (hcap : cfg.backoffMaxSeconds = .finite cap) (hcfg : cfg.validate = .ok ()) :
    0 < base ∧ base ≤ cap := by
  obtain ⟨_, -, h⟩ := bind_eq_ok hcfg
  obtain ⟨_, -, h⟩ := bind_eq_ok h
  obtain ⟨_, -, h⟩ := bind_eq_ok h
  obtain ⟨_, hpos, h⟩ := bind_eq_ok h
  obtain ⟨_, hle, -⟩ := bind_eq_ok h
  unfold SupervisionConfig.check at hpos hle
  split_ifs at hpos hle with hb hc
  rw [hbase] at hb hc
  rw [hcap] at hc
  simp only [PyFloat.le, PyFloat.lt, PyFloat.gt, decide_eq_true_eq, not_le, not_lt] at hb hc
  exact ⟨hb, hc⟩

/-- For finite settings the delay doubles from the base up to the cap. -/
theorem backoffDelay_finite {base cap : ℚ} (hbase : cfg.backoffBaseSeconds = .finite base)
    (hcap : cfg.backoffMaxSeconds = .finite cap) (hcfg : cfg.validate = .ok ()) :
    ∀ i : ℕ, backoffDelay cfg i = .finite (min (base * 2 ^ i) cap)
  | 0 => by
    have hle := (validate_backoff hbase hcap hcfg).2
    simp [backoffDelay, hbase, min_eq_left hle]
  | i + 1 => by
    obtain ⟨hpos, hle⟩ := validate_backoff hbase hcap hcfg
    have hprev : 0 < min (base * 2 ^ i) cap := lt_min (by positivity) (hpos.trans_le hle)
    rw [backoffDelay, backoffDelay_finite hbase hcap hcfg i, nextBackoff, hcap]
    have htruthy : (PyFloat.finite (min (base * 2 ^ i) cap)).truthy = true := by
      simpa [PyFloat.truthy] using hprev.ne'
    rw [if_pos htruthy]
    simp only [PyFloat.double, PyFloat.pyMin, PyFloat.lt, PyFloat.gt, decide_eq_true_eq]
    rw [pow_succ, ← mul_assoc]
    rcases le_total (base * 2 ^ i) cap with hm | hm
    · rw [min_eq_left hm]
      split_ifs with hlt
      · rw [min_eq_right hlt.le]
      · rw [min_eq_left (not_lt.1 hlt)]
    · rw [min_eq_right hm] at hprev ⊢
      rw [if_pos (by linarith), min_eq_right (by linarith)]

variable (cfg) in
/-- Each time is no sooner after the one before than the delay then in force. -/
def Spaced (ts : List ℚ) : Prop :=
  ∀ (i : ℕ) (t t' : ℚ), ts[i]? = some t → ts[i + 1]? = some t' →
    (backoffDelay cfg i).gt (t' - t) = false

theorem spaced_snoc {ts : List ℚ} {t : ℚ} : Spaced cfg (ts ++ [t]) ↔ Spaced cfg ts
    ∧ ∀ l, ts.getLast? = some l → (backoffDelay cfg (ts.length - 1)).gt (t - l) = false := by
  constructor
  · intro h
    refine ⟨fun i a b ha hb => h i a b ?_ ?_, fun l hl => ?_⟩
    · rw [List.getElem?_append_left (List.getElem?_eq_some_iff.1 ha).1, ha]
    · rw [List.getElem?_append_left (List.getElem?_eq_some_iff.1 hb).1, hb]
    · rw [List.getLast?_eq_getElem?] at hl
      have hlt := (List.getElem?_eq_some_iff.1 hl).1
      refine h (ts.length - 1) l t ?_ ?_
      · rw [List.getElem?_append_left hlt, hl]
      · rw [Nat.sub_add_cancel (by omega), List.getElem?_concat_length]
  · rintro ⟨h, hlast⟩ i a b ha hb
    have hb' := (List.getElem?_eq_some_iff.1 hb).1
    rw [List.length_append, List.length_singleton] at hb'
    rw [List.getElem?_append_left (by omega)] at ha
    rcases Nat.lt_or_ge (i + 1) ts.length with hlt | hge
    · rw [List.getElem?_append_left hlt] at hb
      exact h i a b ha hb
    · obtain rfl : i = ts.length - 1 := by omega
      rw [Nat.sub_add_cancel (by omega), List.getElem?_concat_length] at hb
      obtain rfl := Option.some.inj hb
      exact hlast a (by rw [List.getLast?_eq_getElem?, ha])

variable (cfg) in
/-- A streak that is not escalated after the polls `ps` and `k` restarts: every poll has failed,
and no restart is missing as long as the polls are spaced. -/
structure Pace (w : Watch) (ps : List Poll) (k : ℕ) (v : Watch) : Prop where
  start : ps = [] → v = w
  deadline : v.deadline = none
  failures : v.state.consecutiveFailures = ps.length
  restarts_le : k ≤ ps.length
  spaced : k = ps.length ↔ Spaced cfg (ps.map Poll.now)
  backoff : k = ps.length → ps ≠ [] → v.backoff = some (backoffDelay cfg (ps.length - 1))
    ∧ v.state.lastRestart = (ps.map Poll.now).getLast?

/-- The backoff withholds the next restart just when the poll comes too soon. -/
theorem Pace.withheld_iff {ps : List Poll} {k : ℕ} {v : Watch} (h : Pace cfg w ps k v)
    (hclear : w.Clear) (hlast : ∀ l, w.state.lastRestart = some l → l ≤ p.now)
    (hk : k = ps.length) :
    withheld v.state.lastRestart (v.backoff.getD (.finite 0)) p.now = false
      ↔ Spaced cfg ((ps ++ [p]).map Poll.now) := by
  rw [List.map_append, List.map_singleton, spaced_snoc, List.length_map]
  rcases ps.eq_nil_or_concat with rfl | ⟨qs, q, hq⟩
  · obtain rfl := h.start rfl
    exact iff_of_true (hclear.not_withheld hlast) ⟨h.spaced.1 hk, fun l hl => by cases hl⟩
  · obtain ⟨hb, hl⟩ := h.backoff hk (by simp [hq])
    have hlast? : (ps.map Poll.now).getLast? = some q.now := by simp [hq]
    rw [hb, hl, hlast?, Option.getD_some]
    exact ⟨fun hw => ⟨h.spaced.1 hk, fun l hl' => Option.some.inj hl' ▸ hw⟩,
      fun hs => hs.2 _ rfl⟩

/-- A failed poll that does not escalate keeps the pace, or shows that it was lost. -/
theorem Pace.step {ps : List Poll} {k : ℕ} {v : Watch} (h : Pace cfg w ps k v)
    (hclear : w.Clear) (hlast : ∀ l, w.state.lastRestart = some l → l ≤ p.now)
    (hmove : v.move cfg p = .withholds ∨ v.move cfg p = .restarts) :
    Pace cfg w (ps ++ [p]) (k + if v.move cfg p = .restarts then 1 else 0)
      (v.afterMove P fixed cfg n p (v.move cfg p)) := by
  have hguard := v.move_guard cfg p
  have hle := h.restarts_le
  have hlen : (ps ++ [p]).length = ps.length + 1 := by simp
  -- a restart missing already is missing still
  have hspaced : k ≠ ps.length → ¬ Spaced cfg ((ps ++ [p]).map Poll.now) := fun hk hs => by
    rw [List.map_append, List.map_singleton, spaced_snoc] at hs
    exact hk (h.spaced.2 hs.1)
  rcases hmove with hm | hm <;> rw [hm] at hguard ⊢
  · obtain ⟨-, -, -, -, hwait⟩ := hguard
    simp only [reduceCtorEq, ↓reduceIte, add_zero, Watch.afterMove, Watch.failed]
    refine ⟨fun hnil => by simp at hnil, h.deadline, by rw [hlen, h.failures], by omega, ?_,
      fun hk => by omega⟩
    refine iff_of_false (by omega) ?_
    by_cases hk : k = ps.length
    · rw [← h.withheld_iff hclear hlast hk, hwait]
      decide
    · exact hspaced hk
  · obtain ⟨-, -, -, -, hwait⟩ := hguard
    simp only [↓reduceIte, Watch.afterMove, Watch.failed]
    refine ⟨fun hnil => by simp at hnil, h.deadline, by rw [hlen, h.failures], by omega, ?_, ?_⟩
    · by_cases hk : k = ps.length
      · exact iff_of_true (by omega) ((h.withheld_iff hclear hlast hk).1 hwait)
      · exact iff_of_false (by omega) (hspaced hk)
    · intro hk _
      have hk' : k = ps.length := by omega
      refine ⟨congrArg some ?_, by simp⟩
      rw [hlen, Nat.add_sub_cancel]
      rcases ps.eq_nil_or_concat with rfl | ⟨qs, q, hq⟩
      · rw [h.start rfl, hclear.backoff]
        simp [nextBackoff, PyFloat.truthy, backoffDelay]
      · have hpos : ps.length = ps.length - 1 + 1 := by simp [hq]
        rw [(h.backoff hk' (by simp [hq])).1, Option.getD_some, hpos]
        rfl

theorem Watch.Clear.pace (h : w.Clear) : Pace cfg w [] 0 w where
  start _ := rfl
  deadline := h.deadline
  failures := h.failures
  restarts_le := le_rfl
  spaced := iff_of_true rfl fun i t t' ht => by simp at ht
  backoff _ hne := absurd rfl hne

/-- Until its escalation a streak has its pace. -/
theorem Pace.run (hclear : w.Clear) {ps : List Poll}
    (hlast : ∀ l, w.state.lastRestart = some l → ∀ p ∈ ps, l ≤ p.now)
    (hsick : Sick cfg (watching P fixed cfg alerting n) w ps)
    (hesc : ((watching P fixed cfg alerting n).after w ps).state.escalated = false) :
    Pace cfg w ps (((watching P fixed cfg alerting n).output w ps).countP Event.isStart)
      ((watching P fixed cfg alerting n).after w ps) := by
  refine Mealy.invariant (M := watching P fixed cfg alerting n)
    (I := fun as es v => v.state.escalated = false → Pace cfg w as (es.countP Event.isStart) v)
    (C := fun v p => v.move cfg p ≠ .recovers ∧ ∀ l, w.state.lastRestart = some l → l ≤ p.now)
    (fun _ => hclear.pace) ?_ ps (fun l p r hl => ⟨hsick l p r hl, fun t ht =>
      hlast t ht p (by simp [hl])⟩) hesc
  intro as es v p hI ⟨hmove, hle⟩ hesc'
  simp only [watching] at hesc' ⊢
  rw [List.countP_append, countP_isStart]
  have hguard := v.move_guard cfg p
  cases hm : v.move cfg p <;> rw [hm] at hguard hmove hesc'
  case recovers => exact absurd rfl hmove
  case idles => exact absurd (hguard.2.2.symm.trans hesc') (by decide)
  case escalates => cases hesc'
  case waits =>
    have hd := (hI hesc').deadline
    rw [Watch.Guard, Watch.cooling, hd] at hguard
    cases hguard
  case withholds => exact hm ▸ (hI hguard.2.2.1).step hclear hle (.inl hm)
  case restarts => exact hm ▸ (hI hguard.2.2.1).step hclear hle (.inr hm)

/-- The last restart was made by one of the polls. -/
theorem lastRestart_mem (ps : List Poll) {l : ℚ}
    (h : ((watching P fixed cfg alerting n).after ⟨.fresh n, none, none⟩ ps).state.lastRestart
      = some l) : ∃ p ∈ ps, p.now = l := by
  refine Mealy.invariant (M := watching P fixed cfg alerting n)
    (I := fun as _ v => ∀ l, v.state.lastRestart = some l → ∃ p ∈ as, p.now = l)
    (C := fun _ _ => True) (fun l hl => by cases hl) ?_ ps (fun _ _ _ _ => trivial) l h
  intro as es v p hI _ l hl
  simp only [watching] at hl
  have hold : v.state.lastRestart = some l → ∃ q ∈ as ++ [p], q.now = l := fun hv => by
    obtain ⟨q, hq, hql⟩ := hI l hv
    exact ⟨q, List.mem_append_left _ hq, hql⟩
  cases hm : v.move cfg p <;> rw [hm] at hl
  case restarts =>
    obtain rfl := Option.some.inj hl
    exact ⟨p, by simp, rfl⟩
  all_goals exact hold hl

variable {pre mid : List (PyStr × Poll)}

/-- Whoever escalates has counted as many failures as there are restart attempts. -/
theorem escalates_of_recorded {s : SupervisionAgent}
    (h : ∃ i ∈ incidentsIn (pollService P fixed cfg alerting n p s).2, i.kind = .escalated) :
    (s.watch n).move cfg p = .escalates := by
  obtain ⟨i, hi, hkind⟩ := h
  rw [pollService_spec.2, incidentsIn_eventsOf] at hi
  cases hm : (s.watch n).move cfg p <;> rw [hm] at hi
  case restarts =>
    rcases List.mem_append.1 hi with hi | hi
    · rw [noted_kind i hi] at hkind
      cases hkind
    · obtain rfl := List.mem_singleton.1 hi
      cases hkind
  case withholds =>
    rw [noted_kind i hi] at hkind
    cases hkind
  all_goals cases hi

/-- The restarts of a streak that escalates are used up if and only if each of its failed polls
came no sooner after the one before than the delay then in force. -/
theorem escalation_spends_restarts_iff (hcfg : cfg.validate = .ok ())
    (h : FailureStreak P fixed cfg alerting n pre mid)
    (hmono : ((Mealy.mine n (pre ++ mid)).map Poll.now).Pairwise (· ≤ ·))
    (hesc : ∃ i ∈ incidentsIn
      (pollService P fixed cfg alerting n p (polled P fixed cfg alerting (pre ++ mid))).2,
      i.kind = .escalated) :
    ((incidentsIn (streakEvents P fixed cfg alerting n pre mid)).countP (·.kind = .restarted) : ℤ)
        = cfg.maxRestartAttempts
      ↔ Spaced cfg ((Mealy.mine n mid).map Poll.now) := by
  have hguard := ((polled P fixed cfg alerting (pre ++ mid)).watch n).move_guard cfg p
  rw [escalates_of_recorded hesc] at hguard
  obtain ⟨-, -, hcalm, hmax⟩ := hguard
  have hat := h.streakAt (maxRestartAttempts_nonneg hcfg)
  have hle := (hat.waiting hcalm).2
  -- the restarts on record are the calls of `backend.start`
  have hcount : (incidentsIn (streakEvents P fixed cfg alerting n pre mid)).countP
      (·.kind = .restarted)
        = (streakEvents P fixed cfg alerting n pre mid).countP Event.isStart := by
    by_cases hf : ((polled P fixed cfg alerting (pre ++ mid)).watch n).state.consecutiveFailures = 0
    · rw [(hat.none_yet hf).1, (hat.none_yet hf).2.1]
      rfl
    · have hword := congrArg (List.countP (· = IncidentKind.restarted)) (hat.word hf)
      rw [List.countP_map, hcalm] at hword
      simpa [streakWord, Function.comp_def, List.countP_replicate] using hword
  have hlast : ∀ l, ((polled P fixed cfg alerting pre).watch n).state.lastRestart = some l →
      ∀ q ∈ Mealy.mine n mid, l ≤ q.now := by
    intro l hl q hq
    rw [watch_polled] at hl
    obtain ⟨q', hq', rfl⟩ := lastRestart_mem _ hl
    rw [Mealy.mine_append, List.map_append] at hmono
    exact (List.pairwise_append.1 hmono).2.2 _ (List.mem_map_of_mem hq') _
      (List.mem_map_of_mem hq)
  have hesc' := hcalm
  rw [watch_polled_append] at hesc'
  have hpace := Pace.run h.clear hlast h.sick_mine hesc'
  rw [← watch_polled_append, ← streakEvents_eq] at hpace
  rw [hcount, ← hpace.spaced]
  have hfailures := hpace.failures
  push_cast at hmax
  omega

/-- Polled every half minute, `db` is restarted three times before it is escalated. -/
theorem escalation_spends_restarts_outage :
    ((incidentsIn (streakEvents (plainPython []) (fun _ => []) (configEvery 30) true (lit "db") []
      ((outage 30).take 3))).countP (·.kind = .restarted) : ℤ) = 3 := by
  refine (escalation_spends_restarts_iff (p := downPoll 90) configEvery_valid.1
    (.of_unhealthy (by decide +kernel)) (by decide +kernel) (by decide +kernel)).2 ?_
  intro i t t' ht ht'
  rcases i with _ | _ | i
  · cases ht
    cases ht'
    decide +kernel
  · cases ht
    cases ht'
    decide +kernel
  · cases ht'

/-- Polled every second, `db` is escalated after one restart of three. -/
theorem escalation_leaves_restarts :
    (configEvery 1).validate = .ok ()
      ∧ FailureStreak (plainPython []) (fun _ => []) (configEvery 1) true (lit "db") []
        ((outage 1).take 3)
      ∧ ((Mealy.mine (lit "db") ((outage 1).take 4)).map Poll.now).Pairwise (· ≤ ·)
      ∧ (∃ i ∈ incidentsIn (pollService (plainPython []) (fun _ => []) (configEvery 1) true
          (lit "db") (downPoll 3) (polled (plainPython []) (fun _ => []) (configEvery 1) true
            ((outage 1).take 3))).2, i.kind = .escalated)
      ∧ (incidentsIn (streakEvents (plainPython []) (fun _ => []) (configEvery 1) true (lit "db") []
          ((outage 1).take 3))).countP (·.kind = .restarted) = 1
      ∧ (configEvery 1).maxRestartAttempts = 3 :=
  ⟨configEvery_valid.2, .of_unhealthy (by decide +kernel), by decide +kernel, by decide +kernel,
    by decide +kernel, rfl⟩

end AgentComm.Supervision
