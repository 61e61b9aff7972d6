import AgentComm.Proofs.Streaks

/-!
# Recovery

A poll that finds a service healthy clears its failures, its escalation, its backoff and its
cooldown, but not its restart count nor the time of its last restart. The next streak goes as a
first one would, with the attempts numbered on from the last.
-/

namespace AgentComm.Supervision

open Lib

/-- A call that stops or starts the service, or an incident, by its kind and attempt. -/
inductive Mark
  | stop
  | start
  | incident (kind : IncidentKind) (attempt : Option ℕ)
deriving DecidableEq

def Incident.mark (i : Incident) : Mark := .incident i.kind i.attempt

def Event.mark? : Event → Option Mark
  | stop _ _ => some .stop
  | start _ _ => some .start
  | recorded i => some i.mark
  | _ => none

def marks (es : List Event) : List Mark := es.filterMap Event.mark?

@[simp] theorem marks_append (es es' : List Event) : marks (es ++ es') = marks es ++ marks es' :=
  List.filterMap_append

/-- A mark with its attempt numbered `c` further. -/
def Mark.shift (c : ℕ) : Mark → Mark
  | incident kind attempt => incident kind (attempt.map (· + c))
  | m => m

variable {P : Python} {fixed : PyFloat → PyStr} {cfg : SupervisionConfig} {alerting : Bool}
variable {n : PyStr} {p : Poll} {w v : Watch} {mv : Move}

variable (alerting p) in
theorem marks_note : ∀ is : List Incident, marks (note alerting p is) = is.map Incident.mark
  | [] => rfl
  | i :: is => by
    have ih := marks_note is
    unfold marks at ih
    cases alerting <;> simpa [note, emit, marks, Event.mark?, List.filterMap_cons] using ih

theorem marks_asked : marks (Watch.eventsOf.asked cfg n p) = [] := by
  simp [marks, Watch.eventsOf.asked, Event.mark?, Function.comp_def]

/-- The marks of a move, by what the watch counts. -/
def marksOf (failures restarts : ℕ) : Move → List Mark
  | .escalates => first ++ [.incident .escalated none]
  | .withholds => first
  | .restarts => first ++ [.stop, .start, .incident .restarted (some (restarts + 1))]
  | _ => []
where
  first := if failures = 0 then [.incident .degraded none] else []

theorem map_mark_noted : (w.noted P n p).map Incident.mark
    = marksOf.first w.state.consecutiveFailures := by
  unfold Watch.noted marksOf.first
  split_ifs <;> rfl

theorem marks_eventsOf : marks (w.eventsOf P fixed cfg alerting n p mv)
    = marksOf w.state.consecutiveFailures w.state.restartCount mv := by
  cases mv
  case waits => rfl
  case restarts =>
    have hcalls : marks (.stop n p.stop :: .start n p.start
        :: note alerting p [w.restart P n p])
        = [.stop, .start, .incident .restarted (some (w.state.restartCount + 1))] :=
      congrArg (fun l => Mark.stop :: .start :: l)
        (marks_note alerting p [w.restart P n p])
    simp only [Watch.eventsOf, marks_append, marks_asked, marks_note, List.nil_append, hcalls,
      map_mark_noted, marksOf]
  all_goals
    simp only [Watch.eventsOf, marks_append, marks_asked, marks_note, List.nil_append,
      Watch.incidentsOf, List.map_append, map_mark_noted, marksOf, List.map_nil]
  all_goals rfl

section Related

/-- Two watches that decide alike on the polls `ps`, the first having counted `c` restarts more.
Where they disagree about the last restart, the second has made none and the first's is past. -/
structure Alike (c : ℕ) (ps : List Poll) (w v : Watch) : Prop where
  failures : w.state.consecutiveFailures = v.state.consecutiveFailures
  escalated : w.state.escalated = v.state.escalated
  restarts : w.state.restartCount = v.state.restartCount + c
  backoff : w.backoff = v.backoff
  deadline : w.deadline = v.deadline
  lastRestart : w.state.lastRestart = v.state.lastRestart
    ∨ v.state.lastRestart = none ∧ v.backoff = none
      ∧ ∀ l, w.state.lastRestart = some l → ∀ p ∈ ps, l ≤ p.now

theorem Alike.withheld_eq {c : ℕ} {ps : List Poll} (h : Alike c (p :: ps) w v) :
    withheld w.state.lastRestart (w.backoff.getD (.finite 0)) p.now
      = withheld v.state.lastRestart (v.backoff.getD (.finite 0)) p.now := by
  rw [h.backoff]
  rcases h.lastRestart with hl | ⟨hv, hb, hpast⟩
  · rw [hl]
  · rw [hv, hb]
    unfold withheld
    split
    · rfl
    · rename_i l hl
      simpa [PyFloat.gt] using hpast l hl p List.mem_cons_self

theorem Alike.move_eq {c : ℕ} {ps : List Poll} (h : Alike c (p :: ps) w v) :
    w.move cfg p = v.move cfg p := by
  have hcool : w.cooling p ↔ v.cooling p := by rw [Watch.cooling, Watch.cooling, h.deadline]
  simp only [Watch.move, Watch.act, hcool, h.withheld_eq, h.failures, h.escalated]

/-- Watches that decide alike go on doing so. -/
theorem Alike.step {c : ℕ} {ps : List Poll} (h : Alike c (p :: ps) w v) :
    Alike c ps (w.afterMove P fixed cfg n p (w.move cfg p))
      (v.afterMove P fixed cfg n p (v.move cfg p)) := by
  have hpast := h.lastRestart.imp_right fun ⟨hv, hb, hl⟩ =>
    (⟨hv, hb, fun l hw q hq => hl l hw q (List.mem_cons_of_mem _ hq)⟩ :
      v.state.lastRestart = none ∧ v.backoff = none
        ∧ ∀ l, w.state.lastRestart = some l → ∀ p ∈ ps, l ≤ p.now)
  rw [h.move_eq]
  have hf := h.failures
  cases v.move cfg p
  case waits => exact ⟨h.failures, h.escalated, h.restarts, h.backoff, h.deadline, hpast⟩
  case recovers =>
    exact ⟨rfl, rfl, h.restarts, rfl, rfl, hpast.imp_right fun hr => ⟨hr.1, rfl, hr.2.2⟩⟩
  case idles =>
    exact ⟨congrArg (· + 1) hf, h.escalated, h.restarts, h.backoff, h.deadline, hpast⟩
  case escalates =>
    exact ⟨congrArg (· + 1) hf, rfl, h.restarts, rfl, rfl,
      hpast.imp_right fun hr => ⟨hr.1, rfl, hr.2.2⟩⟩
  case withholds =>
    exact ⟨congrArg (· + 1) hf, h.escalated, h.restarts, h.backoff, h.deadline, hpast⟩
  case restarts =>
    refine ⟨congrArg (· + 1) hf, h.escalated, ?_, ?_, h.deadline, .inl rfl⟩
    · simp only [Watch.afterMove, h.restarts]
      omega
    · simp only [Watch.afterMove, h.backoff]

theorem marksOf_shift (c f r : ℕ) (mv : Move) :
    marksOf f (r + c) mv = (marksOf f r mv).map (Mark.shift c) := by
  have hfirst : (marksOf.first f).map (Mark.shift c) = marksOf.first f := by
    unfold marksOf.first
    split_ifs <;> rfl
  cases mv <;> simp [marksOf, hfirst, Mark.shift, Nat.add_right_comm]

/-- Watches that decide alike leave the same marks, up to the numbers of the attempts. -/
theorem Alike.marks_eq {c : ℕ} : ∀ {ps : List Poll} {w v : Watch}, Alike c ps w v →
    marks ((watching P fixed cfg alerting n).output w ps)
      = (marks ((watching P fixed cfg alerting n).output v ps)).map (Mark.shift c)
  | [], _, _, _ => rfl
  | p :: ps, w, v, h => by
    have hrest : marks ((watching P fixed cfg alerting n).output
        ((watching P fixed cfg alerting n).step w p).1 ps) = _ := Alike.marks_eq h.step
    have hfirst : marks ((watching P fixed cfg alerting n).step w p).2
        = (marks ((watching P fixed cfg alerting n).step v p).2).map (Mark.shift c) := by
      simp only [watching, marks_eventsOf]
      rw [h.move_eq, h.failures, h.restarts, marksOf_shift]
    rw [Mealy.output_cons, Mealy.output_cons, marks_append, marks_append, List.map_append, hrest,
      hfirst]
    rfl

end Related

section Restarts

theorem recovers_of_healthy (hclear : w.Clear) (hp : p.healthy cfg = true) :
    w.move cfg p = .recovers := by
  have hcool : ¬ w.cooling p := by rw [Watch.cooling, hclear.deadline]; simp
  rw [Watch.move, if_neg hcool, if_pos hp]

/-- The first failure of a service never restarted restarts it. -/
theorem restarts_of_unhealthy (hclear : w.Clear) (hlast : w.state.lastRestart = none)
    (hmax : 1 ≤ cfg.maxRestartAttempts) (hp : p.healthy cfg = false) :
    w.move cfg p = .restarts := by
  have hcool : ¬ w.cooling p := by rw [Watch.cooling, hclear.deadline]; simp
  have hle : ¬ cfg.maxRestartAttempts < (w.state.consecutiveFailures + 1 : ℕ) := by
    rw [hclear.failures]
    omega
  have hno := hclear.not_withheld (p := p) (by simp [hlast])
  rw [Watch.move, if_neg hcool, if_neg (by simp [hp]), if_neg (by simp [hclear.escalated]),
    Watch.act, if_neg hle, if_neg (by simp [hno])]

/-- Polls that all find the service healthy leave no mark. -/
theorem healthy_marks : ∀ {ps : List Poll} {w : Watch}, w.Clear →
    (∀ q ∈ ps, q.healthy cfg = true) →
    marks ((watching P fixed cfg alerting n).output w ps) = []
  | [], _, _, _ => rfl
  | p :: ps, w, hclear, h => by
    have hm := recovers_of_healthy hclear (h p List.mem_cons_self)
    have hclear' : ((watching P fixed cfg alerting n).step w p).1.Clear := clear_of_recovers hm
    rw [Mealy.output_cons, marks_append,
      healthy_marks hclear' fun q hq => h q (List.mem_cons_of_mem _ hq)]
    simp only [watching, marks_eventsOf, hm, marksOf, List.append_nil]

theorem afterMove_restarts (hmv : mv ≠ .restarts) :
    (w.afterMove P fixed cfg n p mv).state.restartCount = w.state.restartCount
      ∧ (w.afterMove P fixed cfg n p mv).state.lastRestart = w.state.lastRestart := by
  cases mv <;> first | exact ⟨rfl, rfl⟩ | exact absurd rfl hmv

theorem restartCount_step_le : w.state.restartCount
    ≤ ((watching P fixed cfg alerting n).step w p).1.state.restartCount := by
  simp only [watching]
  by_cases hm : w.move cfg p = .restarts
  · rw [hm]
    exact Nat.le_succ _
  · rw [(afterMove_restarts hm).1]

variable (P fixed cfg alerting n) in
theorem restartCount_le : ∀ (ps : List Poll) (w : Watch), w.state.restartCount
    ≤ ((watching P fixed cfg alerting n).after w ps).state.restartCount
  | [], _ => le_rfl
  | _ :: ps, _ => restartCount_step_le.trans (restartCount_le ps _)

theorem marksOf_attempt {f r a : ℕ} (h : .incident .restarted (some a) ∈ marksOf f r mv) :
    r < a := by
  have hfirst : .incident .restarted (some a) ∉ marksOf.first f := by
    unfold marksOf.first
    split_ifs <;> simp
  cases mv <;> simp_all [marksOf]

/-- Attempts are numbered on from the restart count. -/
theorem attempt_gt {a : ℕ} : ∀ {ps : List Poll} {w : Watch},
    .incident .restarted (some a) ∈ marks ((watching P fixed cfg alerting n).output w ps) →
    w.state.restartCount < a
  | [], _, h => by simp [marks] at h
  | p :: ps, w, h => by
    rw [Mealy.output_cons, marks_append] at h
    rcases List.mem_append.1 h with h | h
    · simp only [watching, marks_eventsOf] at h
      exact marksOf_attempt h
    · exact restartCount_step_le.trans_lt (attempt_gt h)

variable (P fixed alerting n) in
/-- A service never restarted before is restarted once it has been found unhealthy. -/
theorem exists_restart (hmax : 1 ≤ cfg.maxRestartAttempts) : ∀ {ps : List Poll} {w : Watch},
    w.Clear → w.state.lastRestart = none → (∃ q ∈ ps, q.healthy cfg = false) →
    w.state.restartCount < ((watching P fixed cfg alerting n).after w ps).state.restartCount
      ∧ .incident .restarted (some (w.state.restartCount + 1))
        ∈ marks ((watching P fixed cfg alerting n).output w ps)
  | [], _, _, _, h => by simp at h
  | p :: ps, w, hclear, hlast, ⟨q, hq, hsick⟩ => by
    rw [Mealy.output_cons, Mealy.after_cons, marks_append]
    by_cases hp : p.healthy cfg = true
    · have hm := recovers_of_healthy hclear hp
      have hclear' : ((watching P fixed cfg alerting n).step w p).1.Clear := clear_of_recovers hm
      have hkeep : ((watching P fixed cfg alerting n).step w p).1.state.restartCount
            = w.state.restartCount
          ∧ ((watching P fixed cfg alerting n).step w p).1.state.lastRestart
            = w.state.lastRestart := afterMove_restarts (by rw [hm]; decide)
      have hq' : q ∈ ps := (List.mem_cons.1 hq).resolve_left fun hqp => by
        rw [hqp, hp] at hsick
        cases hsick
      have ih := exists_restart hmax hclear' (hkeep.2.trans hlast) ⟨q, hq', hsick⟩
      rw [hkeep.1] at ih
      exact ⟨ih.1, List.mem_append_right _ ih.2⟩
    · have hm := restarts_of_unhealthy hclear hlast hmax (by simpa using hp)
      have hcount : ((watching P fixed cfg alerting n).step w p).1.state.restartCount
          = w.state.restartCount + 1 := by
        simp only [watching, hm]
        rfl
      refine ⟨?_, List.mem_append_left _ ?_⟩
      · have := restartCount_le P fixed cfg alerting n ps
          ((watching P fixed cfg alerting n).step w p).1
        omega
      · simp [watching, marks_eventsOf, hm, marksOf]

variable (P fixed alerting n) in
/-- A service is not restarted if there are no attempts, or none of the polls fails. -/
theorem not_restarted {ps : List Poll}
    (h : cfg.maxRestartAttempts = 0 ∨ ∀ q ∈ ps, q.healthy cfg = true) :
    ((watching P fixed cfg alerting n).after ⟨.fresh n, none, none⟩ ps).state.restartCount = 0
      ∧ ((watching P fixed cfg alerting n).after ⟨.fresh n, none, none⟩ ps).state.lastRestart
        = none := by
  refine Mealy.invariant (M := watching P fixed cfg alerting n)
    (I := fun _ _ v => v.state.restartCount = 0 ∧ v.state.lastRestart = none)
    (C := fun _ p => cfg.maxRestartAttempts = 0 ∨ p.healthy cfg = true) ⟨rfl, rfl⟩ ?_ ps
    fun l p r hl => h.imp_right fun h => h p (by simp [hl])
  intro as es v p hI hok
  have hguard := v.move_guard cfg p
  simp only [watching]
  have hm : v.move cfg p ≠ .restarts := fun hm => by
    rw [hm] at hguard
    obtain ⟨-, hp, -, hle, -⟩ := hguard
    rcases hok with h0 | hok
    · omega
    · rw [hp] at hok
      cases hok
  rw [(afterMove_restarts hm).1, (afterMove_restarts hm).2]
  exact hI

end Restarts

section Supervisor

variable {pre cont : List (PyStr × Poll)}

variable (P fixed cfg alerting) in
/-- The marks of `n` that polls `cont` leave after polls `pre`. -/
def marksAfter (n : PyStr) (pre cont : List (PyStr × Poll)) : List Mark :=
  marks (streakEvents P fixed cfg alerting n pre cont)

theorem marksAfter_eq : marksAfter P fixed cfg alerting n pre cont
    = marks ((watching P fixed cfg alerting n).output ((polled P fixed cfg alerting pre).watch n)
      (Mealy.mine n cont)) := by
  rw [marksAfter, streakEvents_eq]

theorem fresh_watch : (polled P fixed cfg alerting []).watch n = ⟨.fresh n, none, none⟩ := by
  rw [watch_polled]
  rfl

/-- What recovery leaves. -/
theorem watch_recovered (hp : ((polled P fixed cfg alerting pre).watch n).move cfg p = .recovers) :
    ((polled P fixed cfg alerting (pre ++ [(n, p)])).watch n).Clear
      ∧ ((polled P fixed cfg alerting (pre ++ [(n, p)])).watch n).state.restartCount
        = ((polled P fixed cfg alerting pre).watch n).state.restartCount
      ∧ ((polled P fixed cfg alerting (pre ++ [(n, p)])).watch n).state.lastRestart
        = ((polled P fixed cfg alerting pre).watch n).state.lastRestart := by
  rw [watch_polled_append, Mealy.mine_cons_self]
  exact ⟨clear_of_recovers hp, afterMove_restarts (by rw [hp]; decide)⟩

/-- After a recovery everything goes as for a new supervisor, with the attempts numbered on, when
the clock does not go back behind the last restart. -/
theorem recovery_shifts_attempts
    (hp : ((polled P fixed cfg alerting pre).watch n).move cfg p = .recovers)
    (hpast : ∀ l, ((polled P fixed cfg alerting pre).watch n).state.lastRestart = some l →
      ∀ q ∈ Mealy.mine n cont, l ≤ q.now) :
    marksAfter P fixed cfg alerting n (pre ++ [(n, p)]) cont
      = (marksAfter P fixed cfg alerting n [] cont).map
        (Mark.shift ((polled P fixed cfg alerting pre).watch n).state.restartCount) := by
  obtain ⟨hclear, hcount, hlast⟩ := watch_recovered hp
  rw [marksAfter_eq, marksAfter_eq, fresh_watch]
  refine Alike.marks_eq ⟨hclear.failures, hclear.escalated, ?_, hclear.backoff, hclear.deadline,
    .inr ⟨rfl, rfl, fun l hl => hpast l (hlast.symm.trans hl)⟩⟩
  rw [hcount]
  exact (Nat.zero_add _).symm

theorem shift_zero (ms : List Mark) : ms.map (Mark.shift 0) = ms := by
  refine (List.map_congr_left fun m _ => ?_).trans (List.map_id ms)
  cases m <;> simp [Mark.shift]

/-- A recovered service is stopped, started and reported on as by a new supervisor if and only if
no restart is allowed, or no poll of the history found it unhealthy, or none of the polls to come
does. -/
theorem recovery_resets_iff (hcfg : cfg.validate = .ok ())
    (hp : ((polled P fixed cfg alerting pre).watch n).move cfg p = .recovers) :
    marksAfter P fixed cfg alerting n (pre ++ [(n, p)]) cont
        = marksAfter P fixed cfg alerting n [] cont
      ↔ cfg.maxRestartAttempts = 0 ∨ (∀ q ∈ Mealy.mine n pre, q.healthy cfg = true)
        ∨ ∀ q ∈ Mealy.mine n cont, q.healthy cfg = true := by
  obtain ⟨hclear, hcount, -⟩ := watch_recovered hp
  constructor
  · intro heq
    by_contra hno
    simp only [not_or, not_forall, exists_prop, Bool.not_eq_true] at hno
    obtain ⟨h0, hpre, hcont⟩ := hno
    have hmax : 1 ≤ cfg.maxRestartAttempts := by
      have := maxRestartAttempts_nonneg hcfg
      omega
    -- the history made a restart, so the next attempt is not the first
    obtain ⟨hrestarted, -⟩ := exists_restart P fixed alerting n hmax (fresh_clear (n := n)) rfl hpre
    obtain ⟨-, hfirst⟩ := exists_restart P fixed alerting n hmax (fresh_clear (n := n)) rfl hcont
    rw [marksAfter_eq, marksAfter_eq, fresh_watch] at heq
    rw [← heq] at hfirst
    have hnumber := attempt_gt hfirst
    rw [hcount, watch_polled] at hnumber
    simp only [ServiceState.fresh] at hnumber hrestarted
    omega
  · intro h
    rcases or_assoc.2 h with h | h
    · obtain ⟨h0, hnone⟩ := not_restarted P fixed alerting n h
      rw [← watch_polled] at h0 hnone
      rw [recovery_shifts_attempts hp (fun l hl => by rw [hnone] at hl; cases hl), h0, shift_zero]
    · rw [marksAfter_eq, marksAfter_eq, fresh_watch, healthy_marks hclear h,
        healthy_marks fresh_clear h]

/-- `db` has only been found healthy when its first outage begins. -/
theorem recovery_resets_first :
    marksAfter (plainPython []) (fun _ => []) (configEvery 30) true (lit "db")
        ([(lit "db", upPoll 0)] ++ [(lit "db", upPoll 30)]) [(lit "db", downPoll 60)]
      = marksAfter (plainPython []) (fun _ => []) (configEvery 30) true (lit "db") []
        [(lit "db", downPoll 60)] :=
  (recovery_resets_iff configEvery_valid.1 (by decide +kernel)).2
    (.inr (.inl (by decide +kernel)))

/-- The second outage of `db` begins with attempt 2. -/
theorem recovery_keeps_count :
    (configEvery 30).validate = .ok ()
      ∧ ((polled (plainPython []) (fun _ => []) (configEvery 30) true
          [(lit "db", downPoll 0)]).watch (lit "db")).move (configEvery 30) (upPoll 30) = .recovers
      ∧ marksAfter (plainPython []) (fun _ => []) (configEvery 30) true (lit "db")
          [(lit "db", downPoll 0), (lit "db", upPoll 30)] [(lit "db", downPoll 60)]
        = [.incident .degraded none, .stop, .start, .incident .restarted (some 2)]
      ∧ marksAfter (plainPython []) (fun _ => []) (configEvery 30) true (lit "db")
          [] [(lit "db", downPoll 60)]
        = [.incident .degraded none, .stop, .start, .incident .restarted (some 1)] :=
  ⟨configEvery_valid.1, by decide +kernel, by decide +kernel, by decide +kernel⟩

end Supervisor

end AgentComm.Supervision
