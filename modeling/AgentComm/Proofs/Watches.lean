import AgentComm.Lifecycle.Supervision

/-!
# One service's supervision

What the supervisor keeps about a service is its watch. A poll makes one of six moves, which the
watch, the clock and the health check decide, and touches no other watch: the supervisor is one
machine for each service, side by side.
-/

namespace AgentComm.Supervision

open Lib

/-- A service's state, its backoff and its cooldown deadline. -/
structure Watch where
  state : ServiceState
  backoff : Option PyFloat
  deadline : Option PyFloat

namespace SupervisionAgent

variable (s : SupervisionAgent) {n m : PyStr}

def watch (n : PyStr) : Watch := ⟨s.getState n, s.backoff.get? n, s.escalationDeadline.get? n⟩

theorem getState_eq : s.getState n = (s.watch n).state := rfl

theorem backoff_eq : s.backoff.get? n = (s.watch n).backoff := rfl

section Updates

variable (n) (f : ServiceState → ServiceState) (hf : ∀ st, (f st).serviceName = st.serviceName)

@[simp] theorem modify_backoff : (s.modify n f hf).backoff = s.backoff := rfl

@[simp] theorem modify_escalationDeadline :
    (s.modify n f hf).escalationDeadline = s.escalationDeadline := rfl

@[simp] theorem getState_modify : (s.modify n f hf).getState n = f (s.getState n) := by
  simp [modify, getState]

theorem getState_modify_of_ne (h : n ≠ m) : (s.modify n f hf).getState m = s.getState m := by
  simp [modify, getState, h]

@[simp] theorem getState_setBackoff (b : PyFloat) :
    (s.setBackoff n b).getState m = s.getState m := rfl

@[simp] theorem getState_popBackoff : (s.popBackoff n).getState m = s.getState m := rfl

@[simp] theorem getState_setDeadline (d : PyFloat) :
    (s.setDeadline n d).getState m = s.getState m := rfl

@[simp] theorem getState_popDeadline : (s.popDeadline n).getState m = s.getState m := rfl

end Updates

section Watches

@[simp] theorem watch_modify (f : ServiceState → ServiceState)
    (hf : ∀ st, (f st).serviceName = st.serviceName) :
    (s.modify n f hf).watch n = { s.watch n with state := f (s.watch n).state } := by
  simp [watch]

@[simp] theorem watch_setBackoff (b : PyFloat) :
    (s.setBackoff n b).watch n = { s.watch n with backoff := some b } := by
  simp [watch, setBackoff, getState]

@[simp] theorem watch_popBackoff :
    (s.popBackoff n).watch n = { s.watch n with backoff := none } := by
  simp [watch, popBackoff, getState]

@[simp] theorem watch_setDeadline (d : PyFloat) :
    (s.setDeadline n d).watch n = { s.watch n with deadline := some d } := by
  simp [watch, setDeadline, getState]

@[simp] theorem watch_popDeadline :
    (s.popDeadline n).watch n = { s.watch n with deadline := none } := by
  simp [watch, popDeadline, getState]

theorem watch_modify_of_ne (f : ServiceState → ServiceState)
    (hf : ∀ st, (f st).serviceName = st.serviceName) (h : n ≠ m) :
    (s.modify n f hf).watch m = s.watch m := by
  simp [watch, getState_modify_of_ne s n f hf h]

theorem watch_setBackoff_of_ne (b : PyFloat) (h : n ≠ m) :
    (s.setBackoff n b).watch m = s.watch m := by
  simp [watch, setBackoff, getState, h]

theorem watch_popBackoff_of_ne (h : n ≠ m) : (s.popBackoff n).watch m = s.watch m := by
  simp [watch, popBackoff, getState, h]

theorem watch_setDeadline_of_ne (d : PyFloat) (h : n ≠ m) :
    (s.setDeadline n d).watch m = s.watch m := by
  simp [watch, setDeadline, getState, h]

theorem watch_popDeadline_of_ne (h : n ≠ m) : (s.popDeadline n).watch m = s.watch m := by
  simp [watch, popDeadline, getState, h]

end Watches

end SupervisionAgent

/-- What a poll comes to: nothing, the cooldown running; the service found healthy; found
unhealthy, and left alone once escalated, escalated, kept from a restart by the backoff, or
restarted. -/
inductive Move
  | waits
  | recovers
  | idles
  | escalates
  | withholds
  | restarts
deriving DecidableEq

/-- The health check finds the service healthy. -/
def Poll.healthy (cfg : SupervisionConfig) (p : Poll) : Bool :=
  (healthCheck (cfg.healthTimeoutSeconds.add p.started) p.rounds).2

/-- The cooldown of an escalation runs. -/
def Watch.cooling (w : Watch) (p : Poll) : Prop := w.deadline.map (fun d => d.gt p.now) = some true

instance (w : Watch) (p : Poll) : Decidable (w.cooling p) := by unfold Watch.cooling; infer_instance

/-- The move of a poll that has found the service unhealthy and not escalated. -/
def Watch.act (cfg : SupervisionConfig) (w : Watch) (p : Poll) : Move :=
  if cfg.maxRestartAttempts < (w.state.consecutiveFailures + 1 : ℕ) then .escalates
  else if withheld w.state.lastRestart (w.backoff.getD (.finite 0)) p.now then .withholds
  else .restarts

def Watch.move (cfg : SupervisionConfig) (w : Watch) (p : Poll) : Move :=
  if w.cooling p then .waits
  else if p.healthy cfg then .recovers
  else if w.state.escalated then .idles
  else w.act cfg p

/-- What a move says of the watch and the poll that make it. -/
def Watch.Guard (cfg : SupervisionConfig) (w : Watch) (p : Poll) : Move → Prop
  | .waits => w.cooling p
  | .recovers => ¬ w.cooling p ∧ p.healthy cfg = true
  | .idles => ¬ w.cooling p ∧ p.healthy cfg = false ∧ w.state.escalated = true
  | .escalates => ¬ w.cooling p ∧ p.healthy cfg = false ∧ w.state.escalated = false
    ∧ cfg.maxRestartAttempts < (w.state.consecutiveFailures + 1 : ℕ)
  | .withholds => ¬ w.cooling p ∧ p.healthy cfg = false ∧ w.state.escalated = false
    ∧ (w.state.consecutiveFailures + 1 : ℕ) ≤ cfg.maxRestartAttempts
    ∧ withheld w.state.lastRestart (w.backoff.getD (.finite 0)) p.now = true
  | .restarts => ¬ w.cooling p ∧ p.healthy cfg = false ∧ w.state.escalated = false
    ∧ (w.state.consecutiveFailures + 1 : ℕ) ≤ cfg.maxRestartAttempts
    ∧ withheld w.state.lastRestart (w.backoff.getD (.finite 0)) p.now = false

theorem Watch.move_guard (cfg : SupervisionConfig) (w : Watch) (p : Poll) :
    w.Guard cfg p (w.move cfg p) := by
  unfold Watch.move Watch.act
  split_ifs with hcool hhealthy hesc hmax hwait
  · exact hcool
  · exact ⟨hcool, hhealthy⟩
  · exact ⟨hcool, by simpa using hhealthy, hesc⟩
  · exact ⟨hcool, by simpa using hhealthy, by simpa using hesc, hmax⟩
  · exact ⟨hcool, by simpa using hhealthy, by simpa using hesc, not_lt.1 hmax, hwait⟩
  · exact ⟨hcool, by simpa using hhealthy, by simpa using hesc, not_lt.1 hmax, by simpa using hwait⟩

section Watch

variable (P : Python) (fixed : PyFloat → PyStr) (cfg : SupervisionConfig) (alerting : Bool)

/-- The events of incidents recorded one after the other. -/
def note (p : Poll) (is : List Incident) : List Event :=
  is.flatMap fun i => .recorded i :: emit alerting p i

namespace Watch

variable (n : PyStr) (w : Watch) (p : Poll)

/-- The state with the failure counted. -/
def failed : ServiceState :=
  { w.state with lastHealthCheck := p.now, healthy := false,
                 consecutiveFailures := w.state.consecutiveFailures + 1,
                 lastFailure := some p.now }

/-- The incident of a streak's first failure. -/
def noted : List Incident :=
  if w.state.consecutiveFailures = 0 then [degradedIncident P n p.now] else []

def escalation : Incident :=
  escalatedIncident P fixed cfg n p.now (w.state.consecutiveFailures + 1) w.state.restartCount

def restart : Incident := restartedIncident P n p.now (w.state.restartCount + 1)

/-- The incidents of a move. -/
def incidentsOf : Move → List Incident
  | .escalates => noted P n w p ++ [escalation P fixed cfg n w p]
  | .withholds => noted P n w p
  | .restarts => noted P n w p ++ [restart P n w p]
  | _ => []

/-- The watch after a move. -/
def afterMove : Move → Watch
  | .waits => w
  | .recovers =>
    ⟨{ w.state with lastHealthCheck := p.now, healthy := true, consecutiveFailures := 0,
                    escalated := false }, none, none⟩
  | .idles => { w with state := w.failed p }
  | .escalates =>
    ⟨{ w.failed p with escalated := true, escalationTime := some p.now,
                       incidents := w.state.incidents ++ incidentsOf P fixed cfg n w p .escalates },
      none, some (cfg.escalationCooldownSeconds.add p.now)⟩
  | .withholds =>
    { w with state := { w.failed p with
      incidents := w.state.incidents ++ incidentsOf P fixed cfg n w p .withholds } }
  | .restarts =>
    ⟨{ w.failed p with restartCount := w.state.restartCount + 1, lastRestart := some p.now,
                       incidents := w.state.incidents ++ incidentsOf P fixed cfg n w p .restarts },
      some (nextBackoff cfg (w.backoff.getD (.finite 0))), w.deadline⟩

/-- The events of a move. -/
def eventsOf : Move → List Event
  | .waits => []
  | .restarts =>
    asked ++ note alerting p (noted P n w p)
      ++ (.stop n p.stop :: .start n p.start :: note alerting p [restart P n w p])
  | mv => asked ++ note alerting p (incidentsOf P fixed cfg n w p mv)
where
  asked := (healthCheck (cfg.healthTimeoutSeconds.add p.started) p.rounds).1.map (Event.health n)

end Watch

/-- The machine of one service. -/
def watching (n : PyStr) : Mealy Watch Poll Event :=
  ⟨fun w p => (w.afterMove P fixed cfg n p (w.move cfg p),
    w.eventsOf P fixed cfg alerting n p (w.move cfg p))⟩

variable {P fixed cfg alerting} {s : SupervisionAgent} {n m : PyStr} {p : Poll}

theorem append_watch (i : Incident) : (append alerting p n i s).1.watch n
    = { s.watch n with
        state := { (s.watch n).state with incidents := (s.watch n).state.incidents ++ [i] } } := by
  simp [append]

theorem append_watch_of_ne (i : Incident) (h : n ≠ m) :
    (append alerting p n i s).1.watch m = s.watch m :=
  s.watch_modify_of_ne _ _ h

theorem append_events (i : Incident) : (append alerting p n i s).2 = note alerting p [i] := by
  simp [append, note]

theorem attemptRestart_of_withheld
    (h : withheld (s.watch n).state.lastRestart ((s.watch n).backoff.getD (.finite 0)) p.now) :
    attemptRestart P cfg alerting p n s = (s, []) := by
  simp only [attemptRestart]
  exact if_pos h

variable (P cfg alerting s n p) in
theorem attemptRestart_spec
    (h : ¬ withheld (s.watch n).state.lastRestart ((s.watch n).backoff.getD (.finite 0)) p.now) :
    (attemptRestart P cfg alerting p n s).1.watch n
      = ⟨{ (s.watch n).state with
            restartCount := (s.watch n).state.restartCount + 1, lastRestart := some p.now,
            incidents := (s.watch n).state.incidents ++ [(s.watch n).restart P n p] },
          some (nextBackoff cfg ((s.watch n).backoff.getD (.finite 0))), (s.watch n).deadline⟩
    ∧ (attemptRestart P cfg alerting p n s).2
      = .stop n p.stop :: .start n p.start :: note alerting p [(s.watch n).restart P n p] := by
  have h' : ¬ withheld (s.getState n).lastRestart ((s.backoff.get? n).getD (.finite 0)) p.now := h
  simp only [attemptRestart]
  rw [if_neg h']
  simp only [SupervisionAgent.getState_eq, SupervisionAgent.backoff_eq]
  constructor
  · simp [append_watch, Watch.restart]
  · simp [append_events, Watch.restart]

theorem attemptRestart_of_ne (h : n ≠ m) :
    (attemptRestart P cfg alerting p n s).1.watch m = s.watch m := by
  simp only [attemptRestart]
  split_ifs
  · rfl
  · rw [append_watch_of_ne _ h, SupervisionAgent.watch_modify_of_ne _ _ _ h,
      SupervisionAgent.watch_setBackoff_of_ne _ _ h]

variable (P fixed cfg alerting s n p) in
theorem escalate_spec (i : Incident)
    (hi : i = escalatedIncident P fixed cfg n p.now (s.watch n).state.consecutiveFailures
      (s.watch n).state.restartCount) :
    (escalate P fixed cfg alerting p n s).1.watch n
      = ⟨{ (s.watch n).state with
            escalated := true, escalationTime := some p.now,
            incidents := (s.watch n).state.incidents ++ [i] },
          none, some (cfg.escalationCooldownSeconds.add p.now)⟩
    ∧ (escalate P fixed cfg alerting p n s).2 = note alerting p [i] := by
  subst hi
  constructor
  · simp [escalate, append_watch, SupervisionAgent.getState_eq]
  · simp [escalate, append_events, SupervisionAgent.getState_eq]

theorem escalate_of_ne (h : n ≠ m) :
    (escalate P fixed cfg alerting p n s).1.watch m = s.watch m := by
  simp only [escalate]
  rw [append_watch_of_ne _ h, SupervisionAgent.watch_popBackoff_of_ne _ h,
    SupervisionAgent.watch_setDeadline_of_ne _ _ h, SupervisionAgent.watch_modify_of_ne _ _ _ h]

/-- The state when the first failure of a streak has been recorded. -/
def pollNoted (P : Python) (alerting : Bool) (n : PyStr) (p : Poll) (s : SupervisionAgent) :
    SupervisionAgent × List Event :=
  if ((pollFailed n p s).getState n).consecutiveFailures = 1 then
    append alerting p n (degradedIncident P n p.now) (pollFailed n p s)
  else (pollFailed n p s, [])

theorem pollFailed_watch :
    (pollFailed n p s).watch n = { s.watch n with state := (s.watch n).failed p } := by
  simp [pollFailed, Watch.failed]

theorem pollFailed_of_ne (h : n ≠ m) : (pollFailed n p s).watch m = s.watch m := by
  simp only [pollFailed]
  rw [SupervisionAgent.watch_modify_of_ne _ _ _ h, SupervisionAgent.watch_modify_of_ne _ _ _ h,
    SupervisionAgent.watch_modify_of_ne _ _ _ h]

variable (P alerting s n p) in
theorem pollNoted_spec :
    (pollNoted P alerting n p s).1.watch n
      = { s.watch n with state := { (s.watch n).failed p with
          incidents := (s.watch n).state.incidents ++ (s.watch n).noted P n p } }
    ∧ (pollNoted P alerting n p s).2 = note alerting p ((s.watch n).noted P n p) := by
  simp only [pollNoted, SupervisionAgent.getState_eq, pollFailed_watch]
  by_cases h : (s.watch n).state.consecutiveFailures = 0
  · have h1 : ((s.watch n).failed p).consecutiveFailures = 1 := by simp [Watch.failed, h]
    rw [if_pos h1, append_watch, append_events, pollFailed_watch, Watch.noted, if_pos h]
    exact ⟨rfl, rfl⟩
  · have h1 : ((s.watch n).failed p).consecutiveFailures ≠ 1 := by simp [Watch.failed, h]
    rw [if_neg h1, Watch.noted, if_neg h]
    exact ⟨by rw [pollFailed_watch, List.append_nil]; rfl, rfl⟩

theorem pollNoted_of_ne (h : n ≠ m) : (pollNoted P alerting n p s).1.watch m = s.watch m := by
  simp only [pollNoted]
  split_ifs
  · rw [append_watch_of_ne _ h, pollFailed_of_ne h]
  · exact pollFailed_of_ne h

/-- What an unhealthy service that is not escalated gets. -/
def pollActed (P : Python) (fixed : PyFloat → PyStr) (cfg : SupervisionConfig) (alerting : Bool)
    (n : PyStr) (p : Poll) (s : SupervisionAgent) : SupervisionAgent × List Event :=
  if cfg.maxRestartAttempts < (s.getState n).consecutiveFailures then
    escalate P fixed cfg alerting p n s
  else attemptRestart P cfg alerting p n s

theorem pollService_eq : pollService P fixed cfg alerting n p s =
    if (s.watch n).cooling p then (s.modify n id fun _ => rfl, [])
    else if p.healthy cfg then (pollRecovered n p s, Watch.eventsOf.asked cfg n p)
    else if ((pollFailed n p s).getState n).escalated then
      (pollFailed n p s, Watch.eventsOf.asked cfg n p)
    else
      ((pollActed P fixed cfg alerting n p (pollNoted P alerting n p s).1).1,
        Watch.eventsOf.asked cfg n p ++ (pollNoted P alerting n p s).2
          ++ (pollActed P fixed cfg alerting n p (pollNoted P alerting n p s).1).2) := rfl

theorem pollActed_spec :
    (pollActed P fixed cfg alerting n p (pollNoted P alerting n p s).1).1.watch n
      = (s.watch n).afterMove P fixed cfg n p ((s.watch n).act cfg p)
    ∧ Watch.eventsOf.asked cfg n p ++ (pollNoted P alerting n p s).2
        ++ (pollActed P fixed cfg alerting n p (pollNoted P alerting n p s).1).2
      = (s.watch n).eventsOf P fixed cfg alerting n p ((s.watch n).act cfg p) := by
  obtain ⟨hw, he⟩ := pollNoted_spec P alerting s n p
  have hstate := congrArg Watch.state hw
  have hback := congrArg Watch.backoff hw
  have hfail : ((pollNoted P alerting n p s).1.getState n).consecutiveFailures
      = (s.watch n).state.consecutiveFailures + 1 := by
    rw [SupervisionAgent.getState_eq, hstate]
    rfl
  rw [he]
  unfold pollActed Watch.act
  rw [hfail]
  split_ifs with hmax hwait
  · obtain ⟨hw', he'⟩ := escalate_spec P fixed cfg alerting (pollNoted P alerting n p s).1 n p
      ((s.watch n).escalation P fixed cfg n p) (by rw [hstate]; rfl)
    rw [hw', he', hstate]
    constructor
    · simp [Watch.afterMove, Watch.incidentsOf, Watch.failed]
    · simp [Watch.eventsOf, Watch.incidentsOf, note]
  · rw [attemptRestart_of_withheld (by rw [hstate, hback]; exact hwait), hw]
    exact ⟨rfl, by simp [Watch.eventsOf, Watch.incidentsOf]⟩
  · obtain ⟨hw', he'⟩ := attemptRestart_spec P cfg alerting (pollNoted P alerting n p s).1 n p
      (by rw [hstate, hback]; exact hwait)
    have hrestart : ((pollNoted P alerting n p s).1.watch n).restart P n p
        = (s.watch n).restart P n p := by
      simp only [Watch.restart, hstate, Watch.failed]
    rw [hw', he', hrestart, hstate, hback, hw]
    constructor
    · simp [Watch.afterMove, Watch.incidentsOf, Watch.failed]
    · simp [Watch.eventsOf]

theorem pollActed_of_ne (h : n ≠ m) :
    (pollActed P fixed cfg alerting n p s).1.watch m = s.watch m := by
  unfold pollActed
  split_ifs
  · exact escalate_of_ne h
  · exact attemptRestart_of_ne h

/-- A poll of `n` does to the watch of `n` what its move says. -/
theorem pollService_spec :
    (pollService P fixed cfg alerting n p s).1.watch n
      = (s.watch n).afterMove P fixed cfg n p ((s.watch n).move cfg p)
    ∧ (pollService P fixed cfg alerting n p s).2
      = (s.watch n).eventsOf P fixed cfg alerting n p ((s.watch n).move cfg p) := by
  have hesc : ((pollFailed n p s).getState n).escalated = (s.watch n).state.escalated := by
    rw [SupervisionAgent.getState_eq, pollFailed_watch]
    rfl
  rw [pollService_eq, hesc]
  unfold Watch.move
  split_ifs with hcool hhealthy hescalated
  · exact ⟨by simp [Watch.afterMove], rfl⟩
  · exact ⟨by simp [pollRecovered, Watch.afterMove],
      by simp [Watch.eventsOf, Watch.incidentsOf, note]⟩
  · exact ⟨pollFailed_watch, by simp [Watch.eventsOf, Watch.incidentsOf, note]⟩
  · exact pollActed_spec

/-- A poll of `n` leaves every other service's watch alone. -/
theorem pollService_of_ne (h : n ≠ m) :
    (pollService P fixed cfg alerting n p s).1.watch m = s.watch m := by
  rw [pollService_eq]
  split_ifs
  · exact s.watch_modify_of_ne id (fun _ => rfl) h
  · rw [pollRecovered, SupervisionAgent.watch_popDeadline_of_ne _ h,
      SupervisionAgent.watch_popBackoff_of_ne _ h, SupervisionAgent.watch_modify_of_ne _ _ _ h,
      SupervisionAgent.watch_modify_of_ne _ _ _ h, SupervisionAgent.watch_modify_of_ne _ _ _ h]
  · exact pollFailed_of_ne h
  · rw [pollActed_of_ne h, pollNoted_of_ne h]

theorem note_service {is : List Incident} (h : ∀ i ∈ is, i.serviceName = n) :
    ∀ e ∈ note alerting p is, e.service = n := by
  intro e he
  obtain ⟨i, hi, he⟩ := List.mem_flatMap.1 he
  rcases List.mem_cons.1 he with rfl | he
  · exact h i hi
  · unfold emit at he
    split_ifs at he
    · obtain rfl := List.mem_singleton.1 he
      exact h i hi
    · cases he

variable (P fixed cfg n p) in
theorem incidentsOf_service (w : Watch) (mv : Move) :
    ∀ i ∈ w.incidentsOf P fixed cfg n p mv, i.serviceName = n := by
  have hnoted : ∀ i ∈ w.noted P n p, i.serviceName = n := by
    intro i hi
    unfold Watch.noted at hi
    split_ifs at hi
    · obtain rfl := List.mem_singleton.1 hi
      rfl
    · cases hi
  intro i hi
  cases mv <;> simp only [Watch.incidentsOf, List.mem_append, List.mem_singleton,
    List.not_mem_nil] at hi
  · rcases hi with hi | rfl
    · exact hnoted i hi
    · rfl
  · exact hnoted i hi
  · rcases hi with hi | rfl
    · exact hnoted i hi
    · rfl

theorem eventsOf_service (w : Watch) (mv : Move) :
    ∀ e ∈ w.eventsOf P fixed cfg alerting n p mv, e.service = n := by
  have hasked : ∀ e ∈ Watch.eventsOf.asked cfg n p, e.service = n := by
    intro e he
    obtain ⟨a, -, rfl⟩ := List.mem_map.1 he
    rfl
  have hi := incidentsOf_service P fixed cfg n p w
  intro e he
  cases mv <;> simp only [Watch.eventsOf, List.mem_append, List.mem_cons, List.not_mem_nil] at he
  case restarts =>
    simp only [Watch.incidentsOf] at hi
    rcases he with (he | he) | rfl | rfl | he
    · exact hasked e he
    · exact note_service (fun i hm => hi .restarts i (List.mem_append_left _ hm)) e he
    · rfl
    · rfl
    · exact note_service (fun i hm => hi .restarts i (List.mem_append_right _ hm)) e he
  all_goals
    rcases he with he | he
    · exact hasked e he
    · exact note_service (hi _) e he

variable (P fixed cfg alerting) in
/-- The supervisor is the machines of its services, side by side. -/
theorem supervision_splits : (supervision P fixed cfg alerting).Splits
    (watching P fixed cfg alerting) SupervisionAgent.watch Event.service where
  hit _ _ _ := pollService_spec.1
  miss _ _ _ _ h := pollService_of_ne h
  events _ _ _ := pollService_spec.2
  marked w _ _ := eventsOf_service w _

end Watch

end AgentComm.Supervision
