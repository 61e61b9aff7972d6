import AgentComm.Proofs.Watches
import Mathlib.Tactic.Linarith

/-!
# Failure streaks

Between two polls that find a service healthy the supervisor records that the service is degraded,
then restarts it a bounded number of times and then escalates it at most once. It counts failures,
not restarts, so it escalates with restarts left over when polls come faster than the backoff.
-/

namespace AgentComm.Supervision

open Lib

namespace Event

def incident? : Event → Option Incident
  | recorded i => some i
  | _ => none

def alert? : Event → Option Incident
  | alerted i _ => some i
  | _ => none

def isHealth : Event → Bool
  | health _ _ => true
  | _ => false

def isStart : Event → Bool
  | start _ _ => true
  | _ => false

/-- A `backend.stop` or `backend.start`. -/
def isRestart : Event → Bool
  | stop _ _ | start _ _ => true
  | _ => false

end Event

/-- The events of one service. -/
def own (n : PyStr) (es : List Event) : List Event := es.filter (·.service = n)

def incidentsIn (es : List Event) : List Incident := es.filterMap Event.incident?

def alertsIn (es : List Event) : List Incident := es.filterMap Event.alert?

@[simp] theorem incidentsIn_append (es es' : List Event) :
    incidentsIn (es ++ es') = incidentsIn es ++ incidentsIn es' := List.filterMap_append

@[simp] theorem alertsIn_append (es es' : List Event) :
    alertsIn (es ++ es') = alertsIn es ++ alertsIn es' := List.filterMap_append

variable {P : Python} {fixed : PyFloat → PyStr} {cfg : SupervisionConfig} {alerting : Bool}
variable {n : PyStr} {p : Poll} {w : Watch} {mv : Move}

section Moves

variable (alerting p) in
theorem incidentsIn_note : ∀ is : List Incident, incidentsIn (note alerting p is) = is
  | [] => rfl
  | i :: is => by
    have ih := incidentsIn_note is
    unfold incidentsIn at ih
    cases alerting <;>
      simpa [note, emit, incidentsIn, Event.incident?, List.filterMap_cons] using ih

variable (alerting p) in
theorem alertsIn_note : ∀ is : List Incident,
    alertsIn (note alerting p is) = if alerting then is else []
  | [] => by simp [note, alertsIn]
  | i :: is => by
    have ih := alertsIn_note is
    unfold alertsIn at ih
    cases alerting <;> simpa [note, emit, alertsIn, Event.alert?, List.filterMap_cons] using ih

theorem note_quiet (is : List Incident) :
    ∀ e ∈ note alerting p is, e.isRestart = false ∧ e.isStart = false ∧ e.isHealth = false := by
  intro e he
  obtain ⟨i, -, he⟩ := List.mem_flatMap.1 he
  rcases List.mem_cons.1 he with rfl | he
  · exact ⟨rfl, rfl, rfl⟩
  · unfold emit at he
    split_ifs at he
    · obtain rfl := List.mem_singleton.1 he
      exact ⟨rfl, rfl, rfl⟩
    · cases he

theorem asked_isHealth : ∀ e ∈ Watch.eventsOf.asked cfg n p,
    e.isHealth = true ∧ e.isRestart = false ∧ e.isStart = false := by
  intro e he
  obtain ⟨a, -, rfl⟩ := List.mem_map.1 he
  exact ⟨rfl, rfl, rfl⟩

theorem incidentsIn_asked : incidentsIn (Watch.eventsOf.asked cfg n p) = [] := by
  simp [incidentsIn, Watch.eventsOf.asked, Event.incident?, Function.comp_def]

theorem alertsIn_asked : alertsIn (Watch.eventsOf.asked cfg n p) = [] := by
  simp [alertsIn, Watch.eventsOf.asked, Event.alert?, Function.comp_def]

/-- A move's events record its incidents. -/
theorem incidentsIn_eventsOf : incidentsIn (w.eventsOf P fixed cfg alerting n p mv)
    = w.incidentsOf P fixed cfg n p mv := by
  cases mv
  case waits => rfl
  case restarts =>
    have hcalls : incidentsIn (.stop n p.stop :: .start n p.start
        :: note alerting p [w.restart P n p]) = [w.restart P n p] :=
      incidentsIn_note alerting p [w.restart P n p]
    simp only [Watch.eventsOf, incidentsIn_append, incidentsIn_asked, incidentsIn_note,
      List.nil_append, hcalls]
    rfl
  all_goals
    simp only [Watch.eventsOf, incidentsIn_append, incidentsIn_asked, incidentsIn_note,
      List.nil_append]

/-- `on_alert` receives a move's incidents. -/
theorem alertsIn_eventsOf : alertsIn (w.eventsOf P fixed cfg alerting n p mv)
    = if alerting then w.incidentsOf P fixed cfg n p mv else [] := by
  cases mv
  case waits => simp [Watch.eventsOf, Watch.incidentsOf, alertsIn]
  case restarts =>
    have hcalls : alertsIn (.stop n p.stop :: .start n p.start
        :: note alerting p [w.restart P n p]) = if alerting then [w.restart P n p] else [] :=
      alertsIn_note alerting p [w.restart P n p]
    simp only [Watch.eventsOf, alertsIn_append, alertsIn_asked, alertsIn_note, List.nil_append,
      hcalls]
    split_ifs <;> rfl
  all_goals
    simp only [Watch.eventsOf, alertsIn_append, alertsIn_asked, alertsIn_note, List.nil_append]

/-- Only a restart stops or starts the service. -/
theorem eventsOf_quiet (h : mv ≠ .restarts) :
    ∀ e ∈ w.eventsOf P fixed cfg alerting n p mv, e.isRestart = false ∧ e.isStart = false := by
  intro e he
  cases mv <;> simp only [Watch.eventsOf, List.mem_append, List.not_mem_nil, ne_eq,
    not_true_eq_false] at he h
  all_goals
    rcases he with he | he
    · exact (asked_isHealth e he).2
    · exact ⟨(note_quiet _ e he).1, (note_quiet _ e he).2.1⟩

theorem countP_isStart : (w.eventsOf P fixed cfg alerting n p mv).countP Event.isStart
    = if mv = .restarts then 1 else 0 := by
  split_ifs with h
  · subst h
    have hasked : (Watch.eventsOf.asked cfg n p).countP Event.isStart = 0 :=
      List.countP_eq_zero.2 fun e he => by simp [(asked_isHealth e he).2.2]
    have hnote : ∀ is, (note alerting p is).countP Event.isStart = 0 := fun is =>
      List.countP_eq_zero.2 fun e he => by simp [(note_quiet is e he).2.1]
    simp [Watch.eventsOf, List.countP_append, List.countP_cons, hasked, hnote, Event.isStart]
  · exact List.countP_eq_zero.2 fun e he => by simp [(eventsOf_quiet h e he).2]

theorem afterMove_incidents : (w.afterMove P fixed cfg n p mv).state.incidents
    = w.state.incidents ++ w.incidentsOf P fixed cfg n p mv := by
  cases mv <;> simp [Watch.afterMove, Watch.incidentsOf, Watch.failed]

end Moves

section Streak

/-- Nothing of an earlier streak counts. -/
structure Watch.Clear (w : Watch) : Prop where
  failures : w.state.consecutiveFailures = 0
  escalated : w.state.escalated = false
  backoff : w.backoff = none
  deadline : w.deadline = none

theorem fresh_clear : Watch.Clear ⟨.fresh n, none, none⟩ := ⟨rfl, rfl, rfl, rfl⟩

theorem clear_of_recovers (h : w.move cfg p = .recovers) :
    (w.afterMove P fixed cfg n p (w.move cfg p)).Clear := by
  rw [h]
  exact ⟨rfl, rfl, rfl, rfl⟩

/-- The kinds of a streak's incidents. -/
def streakWord (restarts : ℕ) (escalated : Bool) : List IncidentKind :=
  .degraded :: List.replicate restarts .restarted ++ if escalated then [.escalated] else []

variable (cfg) in
/-- How a streak stands that has recorded `is` and made `k` restarts. -/
structure StreakAt (is : List Incident) (k : ℕ) (w : Watch) : Prop where
  none_yet : w.state.consecutiveFailures = 0 → is = [] ∧ k = 0 ∧ w.state.escalated = false
  word : w.state.consecutiveFailures ≠ 0 → is.map Incident.kind = streakWord k w.state.escalated
  restarts_le : k ≤ w.state.consecutiveFailures
  bounded : (k : ℤ) ≤ cfg.maxRestartAttempts
  waiting : w.state.escalated = false → w.deadline = none
    ∧ (w.state.consecutiveFailures : ℤ) ≤ cfg.maxRestartAttempts
  cooling : w.state.escalated = true → ∀ i ∈ is, i.kind = .escalated →
    w.deadline = some (cfg.escalationCooldownSeconds.add i.timestamp)

theorem maxRestartAttempts_nonneg (h : cfg.validate = .ok ()) : 0 ≤ cfg.maxRestartAttempts := by
  obtain ⟨_, -, h⟩ := bind_eq_ok h
  obtain ⟨_, -, h⟩ := bind_eq_ok h
  obtain ⟨_, hmax, -⟩ := bind_eq_ok h
  unfold SupervisionConfig.check at hmax
  split_ifs at hmax with hneg
  simpa using hneg

theorem Watch.Clear.streakAt (h : w.Clear) (hmax : 0 ≤ cfg.maxRestartAttempts) :
    StreakAt cfg [] 0 w where
  none_yet _ := ⟨rfl, rfl, h.escalated⟩
  word hne := absurd h.failures hne
  restarts_le := Nat.zero_le _
  bounded := hmax
  waiting _ := ⟨h.deadline, by simpa [h.failures] using hmax⟩
  cooling he := by rw [h.escalated] at he; cases he

/-- The first failure records that the service is degraded. -/
theorem StreakAt.noted_word {is : List Incident} {k : ℕ} (h : StreakAt cfg is k w)
    (hesc : w.state.escalated = false) :
    (is ++ w.noted P n p).map Incident.kind = streakWord k false := by
  unfold Watch.noted
  split_ifs with hf
  · obtain ⟨rfl, rfl, -⟩ := h.none_yet hf
    rfl
  · rw [List.append_nil, h.word hf, hesc]

theorem noted_kind : ∀ i ∈ w.noted P n p, i.kind = .degraded := by
  intro i hi
  unfold Watch.noted at hi
  split_ifs at hi
  · obtain rfl := List.mem_singleton.1 hi
    rfl
  · cases hi

/-- A streak that is not escalated has no escalation on record. -/
theorem StreakAt.not_escalated {is : List Incident} {k : ℕ} (h : StreakAt cfg is k w)
    (hesc : w.state.escalated = false) : ∀ i ∈ is, i.kind ≠ .escalated := by
  intro i hi hkind
  have hmem : IncidentKind.escalated ∈ is.map Incident.kind := hkind ▸ List.mem_map_of_mem hi
  by_cases hf : w.state.consecutiveFailures = 0
  · rw [(h.none_yet hf).1] at hmem
    cases hmem
  · rw [h.word hf, hesc] at hmem
    simp [streakWord] at hmem

variable (P fixed n) in
/-- A poll that does not find the service healthy takes the streak one failure further, or finds
the cooldown running. -/
theorem StreakAt.step {is : List Incident} {k : ℕ} (h : StreakAt cfg is k w)
    (hsick : w.move cfg p ≠ .recovers) :
    StreakAt cfg (is ++ w.incidentsOf P fixed cfg n p (w.move cfg p))
      (k + if w.move cfg p = .restarts then 1 else 0)
      (w.afterMove P fixed cfg n p (w.move cfg p)) := by
  have hguard := w.move_guard cfg p
  have hle := h.restarts_le
  generalize w.move cfg p = mv at hguard hsick ⊢
  cases mv with
  | waits => simpa [Watch.incidentsOf, Watch.afterMove] using h
  | recovers => exact absurd rfl hsick
  | idles =>
    obtain ⟨-, -, hesc⟩ := hguard
    have hf : w.state.consecutiveFailures ≠ 0 := fun hf => by
      have := (h.none_yet hf).2.2
      rw [hesc] at this
      cases this
    simp only [Watch.incidentsOf, List.append_nil, reduceCtorEq, ↓reduceIte, add_zero,
      Watch.afterMove, Watch.failed]
    exact ⟨fun h0 => absurd h0 (Nat.succ_ne_zero _), fun _ => h.word hf, Nat.le_succ_of_le hle,
      h.bounded, fun h0 => absurd (hesc.symm.trans h0) (by decide), fun _ => h.cooling hesc⟩
  | escalates =>
    obtain ⟨-, -, hesc, hmax⟩ := hguard
    simp only [Watch.incidentsOf, reduceCtorEq, ↓reduceIte, add_zero, Watch.afterMove,
      Watch.failed]
    refine ⟨fun h0 => absurd h0 (Nat.succ_ne_zero _), fun _ => ?_, Nat.le_succ_of_le hle,
      h.bounded, fun h0 => (by cases h0), fun _ i hi hkind => ?_⟩
    · rw [← List.append_assoc, List.map_append, h.noted_word hesc]
      simp [streakWord, Watch.escalation, escalatedIncident]
    · rcases List.mem_append.1 hi with hi | hi
      · exact absurd hkind (h.not_escalated hesc i hi)
      rcases List.mem_append.1 hi with hi | hi
      · rw [noted_kind i hi] at hkind
        cases hkind
      · obtain rfl := List.mem_singleton.1 hi
        rfl
  | withholds =>
    obtain ⟨-, -, hesc, hmax, -⟩ := hguard
    simp only [Watch.incidentsOf, reduceCtorEq, ↓reduceIte, add_zero, Watch.afterMove,
      Watch.failed]
    refine ⟨fun h0 => absurd h0 (Nat.succ_ne_zero _), fun _ => ?_, Nat.le_succ_of_le hle,
      h.bounded, fun _ => ⟨(h.waiting hesc).1, hmax⟩,
      fun h0 => absurd (hesc.symm.trans h0) (by decide)⟩
    rw [h.noted_word hesc, hesc]
  | restarts =>
    obtain ⟨-, -, hesc, hmax, -⟩ := hguard
    simp only [Watch.incidentsOf, ↓reduceIte, Watch.afterMove, Watch.failed]
    refine ⟨fun h0 => absurd h0 (Nat.succ_ne_zero _), fun _ => ?_, Nat.succ_le_succ hle, ?_,
      fun _ => ⟨(h.waiting hesc).1, hmax⟩, fun h0 => absurd (hesc.symm.trans h0) (by decide)⟩
    · rw [← List.append_assoc, List.map_append, h.noted_word hesc, hesc]
      simp [streakWord, Watch.restart, restartedIncident, List.replicate_succ']
    · push_cast at hmax ⊢
      omega

/-- Polls of one service, none of which finds it healthy. -/
def Sick (cfg : SupervisionConfig) (M : Mealy Watch Poll Event) (w : Watch) (ps : List Poll) :
    Prop := ∀ l p r, ps = l ++ p :: r → (M.after w l).move cfg p ≠ .recovers

theorem Sick.head {M : Mealy Watch Poll Event} {ps qs : List Poll}
    (h : Sick cfg M w (ps ++ qs)) : Sick cfg M w ps :=
  fun l p r hl => h l p (r ++ qs) (by rw [hl, List.append_assoc, List.cons_append])

theorem Sick.tail {M : Mealy Watch Poll Event} (ps : List Poll) {qs : List Poll}
    (h : Sick cfg M w (ps ++ qs)) : Sick cfg M (M.after w ps) qs := fun l p r hl => by
  rw [← M.after_append]
  exact h (ps ++ l) p r (by rw [hl, List.append_assoc])

/-- Polls of a streak keep its standing. -/
theorem StreakAt.run (hclear : w.Clear) (hmax : 0 ≤ cfg.maxRestartAttempts) {ps : List Poll}
    (hsick : Sick cfg (watching P fixed cfg alerting n) w ps) :
    StreakAt cfg (incidentsIn ((watching P fixed cfg alerting n).output w ps))
      (((watching P fixed cfg alerting n).output w ps).countP Event.isStart)
      ((watching P fixed cfg alerting n).after w ps) := by
  refine Mealy.invariant (M := watching P fixed cfg alerting n)
    (I := fun _ es w => StreakAt cfg (incidentsIn es) (es.countP Event.isStart) w)
    (C := fun w p => w.move cfg p ≠ .recovers) (hclear.streakAt hmax) ?_ ps hsick
  intro as es w p h hok
  have hstep := h.step P fixed n hok
  rw [incidentsIn_append, List.countP_append]
  simp only [watching]
  rwa [incidentsIn_eventsOf, countP_isStart]

theorem move_of_escalated (hesc : w.state.escalated = true) (hmove : w.move cfg p ≠ .recovers) :
    w.move cfg p = .waits ∨ w.move cfg p = .idles := by
  have hguard := w.move_guard cfg p
  cases hm : w.move cfg p <;> rw [hm] at hguard hmove
  case waits => exact .inl rfl
  case recovers => exact absurd rfl hmove
  case idles => exact .inr rfl
  case restarts => rw [hguard.2.2.1] at hesc; cases hesc
  case withholds => rw [hguard.2.2.1] at hesc; cases hesc
  case escalates => rw [hguard.2.2.1] at hesc; cases hesc

/-- An escalated service is left alone until it is found healthy. -/
theorem escalated_quiet : ∀ {ps : List Poll} {w : Watch}, w.state.escalated = true →
    Sick cfg (watching P fixed cfg alerting n) w ps →
    incidentsIn ((watching P fixed cfg alerting n).output w ps) = []
      ∧ ∀ e ∈ (watching P fixed cfg alerting n).output w ps, e.isRestart = false
  | [], w, _, _ => ⟨rfl, by simp⟩
  | p :: ps, w, hesc, hsick => by
    have hmove := move_of_escalated hesc (hsick [] p ps rfl)
    have hesc' : ((watching P fixed cfg alerting n).step w p).1.state.escalated = true := by
      simp only [watching]
      rcases hmove with hm | hm <;> rw [hm] <;> exact hesc
    obtain ⟨hi, hr⟩ := escalated_quiet hesc' (Sick.tail [p] hsick)
    rw [Mealy.output_cons, incidentsIn_append, hi, List.append_nil]
    constructor
    · simp only [watching, incidentsIn_eventsOf]
      rcases hmove with hm | hm <;> rw [hm] <;> rfl
    · intro e he
      rcases List.mem_append.1 he with he | he
      · refine (eventsOf_quiet ?_ e he).1
        rcases hmove with hm | hm <;> rw [hm] <;> decide
      · exact hr e he

theorem afterMove_failures (hsick : w.move cfg p ≠ .recovers) (hmove : w.move cfg p ≠ .waits) :
    (w.afterMove P fixed cfg n p (w.move cfg p)).state.consecutiveFailures
      = w.state.consecutiveFailures + 1 := by
  cases hm : w.move cfg p <;> rw [hm] at hsick hmove <;>
    first | rfl | exact absurd rfl hsick | exact absurd rfl hmove

/-- Nothing withholds the first restart of a streak. -/
theorem Watch.Clear.not_withheld (h : w.Clear)
    (hlast : ∀ l, w.state.lastRestart = some l → l ≤ p.now) :
    withheld w.state.lastRestart (w.backoff.getD (.finite 0)) p.now = false := by
  rw [h.backoff, Option.getD_none]
  unfold withheld
  split
  · rfl
  · rename_i t ht
    simpa [PyFloat.gt] using hlast t ht

/-- The first poll of a streak fails. -/
theorem Watch.Clear.move_ne_waits (h : w.Clear) : w.move cfg p ≠ .waits := fun hm => by
  have hguard := w.move_guard cfg p
  rw [hm] at hguard
  rw [Watch.Guard, Watch.cooling, h.deadline] at hguard
  cases hguard

theorem failures_ne_zero (hclear : w.Clear) {ps : List Poll} (hne : ps ≠ [])
    (hsick : Sick cfg (watching P fixed cfg alerting n) w ps) :
    ((watching P fixed cfg alerting n).after w ps).state.consecutiveFailures ≠ 0 := by
  refine (Mealy.invariant (M := watching P fixed cfg alerting n)
    (I := fun as _ v => (as = [] → v = w) ∧ (as ≠ [] → v.state.consecutiveFailures ≠ 0))
    (C := fun w p => w.move cfg p ≠ .recovers) ⟨fun _ => rfl, fun h => absurd rfl h⟩ ?_ ps
    hsick).2 hne
  intro as es v p ⟨hnil, hcons⟩ hok
  refine ⟨fun h => by simp at h, fun _ => ?_⟩
  simp only [watching]
  by_cases hm : v.move cfg p = .waits
  · have has : as ≠ [] := fun has => hclear.move_ne_waits (hnil has ▸ hm)
    rw [hm]
    exact hcons has
  · rw [afterMove_failures hok hm]
    exact Nat.succ_ne_zero _

end Streak

section Supervisor

variable (P fixed cfg alerting) in
/-- The supervisor's state after polls of any services. -/
def polled (ps : List (PyStr × Poll)) : SupervisionAgent :=
  (supervision P fixed cfg alerting).after .init ps

variable (P fixed cfg alerting) in
/-- The polls `mid` follow a poll that has found `n` healthy, or are the first ones, and none of
them finds `n` healthy. -/
structure FailureStreak (n : PyStr) (pre mid : List (PyStr × Poll)) : Prop where
  start : pre = [] ∨ ∃ l p, pre = l ++ [(n, p)]
    ∧ ((polled P fixed cfg alerting l).watch n).move cfg p = .recovers
  sick : ∀ l p r, mid = l ++ (n, p) :: r →
    ((polled P fixed cfg alerting (pre ++ l)).watch n).move cfg p ≠ .recovers

variable (P fixed cfg alerting) in
/-- What polls `mid` after polls `pre` record of `n` and do to it. -/
def streakEvents (n : PyStr) (pre mid : List (PyStr × Poll)) : List Event :=
  own n ((supervision P fixed cfg alerting).output (polled P fixed cfg alerting pre) mid)

variable {pre mid : List (PyStr × Poll)}

theorem watch_polled (ps : List (PyStr × Poll)) : (polled P fixed cfg alerting ps).watch n
    = (watching P fixed cfg alerting n).after ⟨.fresh n, none, none⟩ (Mealy.mine n ps) :=
  (supervision_splits P fixed cfg alerting).after n .init ps

theorem watch_polled_append : (polled P fixed cfg alerting (pre ++ mid)).watch n
    = (watching P fixed cfg alerting n).after ((polled P fixed cfg alerting pre).watch n)
      (Mealy.mine n mid) := by
  unfold polled
  rw [Mealy.after_append]
  exact (supervision_splits P fixed cfg alerting).after n _ mid

theorem streakEvents_eq : streakEvents P fixed cfg alerting n pre mid
    = (watching P fixed cfg alerting n).output ((polled P fixed cfg alerting pre).watch n)
      (Mealy.mine n mid) :=
  (supervision_splits P fixed cfg alerting).output n _ mid

theorem FailureStreak.clear (h : FailureStreak P fixed cfg alerting n pre mid) :
    ((polled P fixed cfg alerting pre).watch n).Clear := by
  rcases h.start with rfl | ⟨l, p, rfl, hp⟩
  · rw [watch_polled]
    exact fresh_clear
  · rw [watch_polled_append, Mealy.mine_cons_self]
    exact clear_of_recovers hp

theorem FailureStreak.sick_mine (h : FailureStreak P fixed cfg alerting n pre mid) :
    Sick cfg (watching P fixed cfg alerting n) ((polled P fixed cfg alerting pre).watch n)
      (Mealy.mine n mid) := by
  intro l p r hl
  obtain ⟨l', r', rfl, rfl, -⟩ := Mealy.mine_split hl
  rw [← watch_polled_append]
  exact h.sick l' p r' rfl

variable (P fixed cfg alerting) in
/-- The record of a streak, and what is done in it. -/
structure StreakReport (n : PyStr) (pre mid : List (PyStr × Poll)) : Prop where
  recorded : ((polled P fixed cfg alerting (pre ++ mid)).getState n).incidents
    = ((polled P fixed cfg alerting pre).getState n).incidents
      ++ incidentsIn (streakEvents P fixed cfg alerting n pre mid)
  empty : (∀ l p r, mid = l ++ (n, p) :: r →
      ((polled P fixed cfg alerting (pre ++ l)).watch n).move cfg p = .waits) →
    streakEvents P fixed cfg alerting n pre mid = []
  word : (∃ l p r, mid = l ++ (n, p) :: r
      ∧ ((polled P fixed cfg alerting (pre ++ l)).watch n).move cfg p ≠ .waits) →
    ∃ (k : ℕ) (escalated : Bool), (k : ℤ) ≤ cfg.maxRestartAttempts
      ∧ (incidentsIn (streakEvents P fixed cfg alerting n pre mid)).map Incident.kind
        = streakWord k escalated
      ∧ (streakEvents P fixed cfg alerting n pre mid).countP Event.isStart = k
  quiet : ∀ l r, mid = l ++ r →
    (∃ i ∈ incidentsIn (streakEvents P fixed cfg alerting n pre l), i.kind = .escalated) →
    incidentsIn (streakEvents P fixed cfg alerting n (pre ++ l) r) = []
      ∧ ∀ e ∈ streakEvents P fixed cfg alerting n (pre ++ l) r, e.isRestart = false
  cooldown : ∀ l p r, mid = l ++ (n, p) :: r →
    (∃ i ∈ incidentsIn (streakEvents P fixed cfg alerting n pre l), i.kind = .escalated
      ∧ (cfg.escalationCooldownSeconds.add i.timestamp).gt p.now = true) →
    ∀ e ∈ (pollService P fixed cfg alerting n p (polled P fixed cfg alerting (pre ++ l))).2,
      e.isHealth = false
  alerts : alertsIn (streakEvents P fixed cfg alerting n pre mid)
    = if alerting then incidentsIn (streakEvents P fixed cfg alerting n pre mid) else []

theorem output_incidents : ∀ (ps : List Poll) (w : Watch),
    ((watching P fixed cfg alerting n).after w ps).state.incidents
      = w.state.incidents ++ incidentsIn ((watching P fixed cfg alerting n).output w ps)
  | [], w => by simp [incidentsIn]
  | p :: ps, w => by
    rw [Mealy.after_cons, output_incidents ps, Mealy.output_cons, incidentsIn_append]
    simp only [watching]
    rw [afterMove_incidents, incidentsIn_eventsOf, List.append_assoc]

theorem output_alerts : ∀ (ps : List Poll) (w : Watch),
    alertsIn ((watching P fixed cfg alerting n).output w ps)
      = if alerting then incidentsIn ((watching P fixed cfg alerting n).output w ps) else []
  | [], w => by simp [alertsIn, incidentsIn]
  | p :: ps, w => by
    rw [Mealy.output_cons, alertsIn_append, incidentsIn_append, output_alerts ps]
    simp only [watching]
    rw [alertsIn_eventsOf, incidentsIn_eventsOf]
    split_ifs <;> rfl

/-- An escalation on record means that the service is escalated and its cooldown set. -/
theorem StreakAt.escalated {is : List Incident} {k : ℕ} (h : StreakAt cfg is k w) {i : Incident}
    (hi : i ∈ is) (hkind : i.kind = .escalated) : w.state.escalated = true := by
  by_contra hesc
  exact h.not_escalated (by simpa using hesc) i hi hkind

theorem FailureStreak.streakAt (h : FailureStreak P fixed cfg alerting n pre mid)
    (hmax : 0 ≤ cfg.maxRestartAttempts) :
    StreakAt cfg (incidentsIn (streakEvents P fixed cfg alerting n pre mid))
      ((streakEvents P fixed cfg alerting n pre mid).countP Event.isStart)
      ((polled P fixed cfg alerting (pre ++ mid)).watch n) := by
  rw [streakEvents_eq, watch_polled_append]
  exact StreakAt.run h.clear hmax h.sick_mine

theorem FailureStreak.head {l r : List (PyStr × Poll)}
    (h : FailureStreak P fixed cfg alerting n pre (l ++ r)) :
    FailureStreak P fixed cfg alerting n pre l :=
  ⟨h.start, fun a p b hl => h.sick a p (b ++ r) (by rw [hl, List.append_assoc,
    List.cons_append])⟩

/-- A streak of failures is recorded as a degradation, at most `max_restart_attempts` restarts
and at most one escalation; polls of one service leave the others alone. -/
theorem supervision_streak (hcfg : cfg.validate = .ok ())
    (h : FailureStreak P fixed cfg alerting n pre mid) :
    StreakReport P fixed cfg alerting n pre mid
      ∧ ∀ (s : SupervisionAgent) (p : Poll) (m : PyStr), n ≠ m →
        (pollService P fixed cfg alerting n p s).1.watch m = s.watch m := by
  have hmax := maxRestartAttempts_nonneg hcfg
  refine ⟨?_, fun s p m hne => pollService_of_ne hne⟩
  constructor
  case recorded =>
    rw [SupervisionAgent.getState_eq, SupervisionAgent.getState_eq, watch_polled_append,
      streakEvents_eq]
    exact output_incidents _ _
  case empty =>
    intro hwaits
    rw [streakEvents_eq]
    rcases hm : Mealy.mine n mid with _ | ⟨p, ps⟩
    · rfl
    · obtain ⟨l, r, hl, hnil, -⟩ := Mealy.mine_split (l := []) hm
      have hfirst := hwaits l p r hl
      rw [watch_polled_append, hnil] at hfirst
      exact absurd hfirst h.clear.move_ne_waits
  case word =>
    rintro ⟨l, p, r, hl, -⟩
    have hat := h.streakAt hmax
    have hne : Mealy.mine n mid ≠ [] := by simp [hl]
    have hf := failures_ne_zero h.clear hne h.sick_mine
    rw [← watch_polled_append] at hf
    exact ⟨_, _, hat.bounded, hat.word hf, rfl⟩
  case quiet =>
    rintro l r rfl ⟨i, hi, hkind⟩
    have hesc := (h.head.streakAt hmax).escalated hi hkind
    have hsick := h.sick_mine
    rw [Mealy.mine_append] at hsick
    rw [streakEvents_eq]
    refine escalated_quiet hesc ?_
    rw [watch_polled_append]
    exact hsick.tail _
  case cooldown =>
    rintro l p r hl ⟨i, hi, hkind, hnow⟩ e he
    have hat := (FailureStreak.head (hl ▸ h)).streakAt hmax
    have hdeadline := hat.cooling (hat.escalated hi hkind) i hi hkind
    have hmove : ((polled P fixed cfg alerting (pre ++ l)).watch n).move cfg p = .waits :=
      if_pos (by rw [Watch.cooling, hdeadline, Option.map_some, hnow])
    rw [pollService_spec.2, hmove] at he
    cases he
  case alerts =>
    rw [streakEvents_eq]
    exact output_alerts _ _

theorem FailureStreak.of_unhealthy {ps : List (PyStr × Poll)}
    (h : ∀ a ∈ ps, a.2.healthy cfg = false) : FailureStreak P fixed cfg alerting n [] ps where
  start := .inl rfl
  sick l p r hl hmove := by
    have hguard := ((polled P fixed cfg alerting ([] ++ l)).watch n).move_guard cfg p
    rw [hmove] at hguard
    have hp := h (n, p) (by simp [hl])
    rw [hguard.2] at hp
    cases hp

/-- A service that is down, polled at `t`. -/
def downPoll (t : ℚ) : Poll :=
  ⟨t, t, [(t, .ok false)], .ok (), .ok (), fun _ => .error ⟨.osError, lit "no route"⟩⟩

def upPoll (t : ℚ) : Poll := ⟨t, t, [(t, .ok true)], .ok (), .ok (), fun _ => .ok ()⟩

/-- The defaults, with another poll interval. -/
def configEvery (interval : ℚ) : SupervisionConfig :=
  ⟨.finite interval, .finite 10, 3, .finite 5, .finite 300, .finite 600⟩

/-- Six polls in an outage of `db`. -/
def outage (interval : ℚ) : List (PyStr × Poll) :=
  [0, 1, 2, 3, 4, 5].map fun i => (lit "db", downPoll (i * interval))

theorem configEvery_valid :
    (configEvery 30).validate = .ok () ∧ (configEvery 1).validate = .ok () :=
  ⟨by rfl, by rfl⟩

theorem supervision_streak_outage :
    StreakReport (plainPython []) (fun _ => []) (configEvery 30) true (lit "db") [] (outage 30)
      ∧ ∀ (s : SupervisionAgent) (p : Poll) (m : PyStr), lit "db" ≠ m →
        (pollService (plainPython []) (fun _ => []) (configEvery 30) true (lit "db") p s).1.watch m
          = s.watch m :=
  supervision_streak configEvery_valid.1 (.of_unhealthy (by decide +kernel))

end Supervisor

end AgentComm.Supervision
