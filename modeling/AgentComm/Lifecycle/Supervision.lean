import AgentComm.Lib.Mealy
import AgentComm.Python

/-!
# The supervision agent

`_poll_service` checks a service's health and restarts or escalates it. What the supervisor keeps
about a service is spread over its `ServiceState`, a backoff map and a map of cooldown deadlines.
A poll is given what it meets: the clock, the answers of the backend and of `on_alert`, and it
leaves the calls it made with their answers as events.
-/

namespace AgentComm.Supervision

open Lib

inductive IncidentKind
  | degraded
  | restarted
  | escalated
deriving DecidableEq

structure Incident where
  timestamp : ℚ
  serviceName : PyStr
  kind : IncidentKind
  message : PyStr
  /-- the restart attempt, counted from one, of a `restarted` incident -/
  attempt : Option ℕ
deriving DecidableEq

structure ServiceState where
  serviceName : PyStr
  healthy : Bool
  consecutiveFailures : ℕ
  restartCount : ℕ
  escalated : Bool
  lastHealthCheck : ℚ
  lastFailure : Option ℚ
  lastRestart : Option ℚ
  escalationTime : Option ℚ
  incidents : List Incident
deriving DecidableEq

/-- `ServiceState(service_name=name)` -/
def ServiceState.fresh (name : PyStr) : ServiceState :=
  ⟨name, true, 0, 0, false, 0, none, none, none, []⟩

structure SupervisionConfig where
  pollIntervalSeconds : PyFloat
  healthTimeoutSeconds : PyFloat
  maxRestartAttempts : ℤ
  backoffBaseSeconds : PyFloat
  backoffMaxSeconds : PyFloat
  escalationCooldownSeconds : PyFloat

namespace SupervisionConfig

def check (bad : Bool) (text : String) : Except Exc Unit :=
  if bad then .error ⟨.valueError, lit text⟩ else .ok ()

/-- A comparison with `nan` is false, so `nan` passes every check. -/
def validate (c : SupervisionConfig) : Except Exc Unit := do
  check (c.pollIntervalSeconds.le 0) "poll_interval_seconds must be positive"
  check (c.healthTimeoutSeconds.le 0) "health_timeout_seconds must be positive"
  check (c.maxRestartAttempts < 0) "max_restart_attempts must be >= 0"
  check (c.backoffBaseSeconds.le 0) "backoff_base_seconds must be positive"
  check (c.backoffMaxSeconds.lt c.backoffBaseSeconds)
    "backoff_max_seconds must be >= backoff_base_seconds"
  check (c.escalationCooldownSeconds.lt (.finite 0)) "escalation_cooldown_seconds must be >= 0"

end SupervisionConfig

/-- What one call of `_poll_service` meets: the wall clock; the monotonic clock before the health
check and at each turn of its loop, with what `backend.health` answers there; what `backend.stop`,
`backend.start` and `on_alert` do. -/
structure Poll where
  now : ℚ
  started : ℚ
  rounds : List (ℚ × Except Exc Bool)
  stop : Except Exc Unit
  start : Except Exc Unit
  onAlert : Incident → Except Exc Unit

/-- A call of the backend or of `on_alert` with its answer, or an incident entered in the
service's record. -/
inductive Event
  | health (service : PyStr) (answer : Except Exc Bool)
  | stop (service : PyStr) (answer : Except Exc Unit)
  | start (service : PyStr) (answer : Except Exc Unit)
  | recorded (incident : Incident)
  | alerted (incident : Incident) (answer : Except Exc Unit)

def Event.service : Event → PyStr
  | health n _ | stop n _ | start n _ => n
  | recorded i | alerted i _ => i.serviceName

/-- The health check asks until an answer is true or the deadline passes; what a call raises is
suppressed. -/
def healthCheck (deadline : PyFloat) : List (ℚ × Except Exc Bool) → List (Except Exc Bool) × Bool
  | [] => ([], false)
  | (clock, answer) :: rounds =>
    if deadline.gt clock then
      match answer with
      | .ok true => ([answer], true)
      | _ => (answer :: (healthCheck deadline rounds).1, (healthCheck deadline rounds).2)
    else ([], false)

/-- The supervisor's own state; every `ServiceState` has the name it is filed under. -/
structure SupervisionAgent where
  servicesState : Dict PyStr ServiceState
  backoff : Dict PyStr PyFloat
  escalationDeadline : Dict PyStr PyFloat
  named : ∀ n st, servicesState.get? n = some st → st.serviceName = n

namespace SupervisionAgent

def init : SupervisionAgent := ⟨.empty, .empty, .empty, fun _ _ h => by cases h⟩

/-- The state `_get_state` returns. -/
def getState (s : SupervisionAgent) (name : PyStr) : ServiceState :=
  (s.servicesState.get? name).getD (.fresh name)

theorem getState_serviceName (s : SupervisionAgent) (name : PyStr) :
    (s.getState name).serviceName = name := by
  unfold getState
  rcases h : s.servicesState.get? name with _ | st
  · rfl
  · exact s.named name st h

/-- Assignments to the attributes of the state `_get_state` returned. -/
def modify (s : SupervisionAgent) (name : PyStr) (f : ServiceState → ServiceState)
    (hf : ∀ st, (f st).serviceName = st.serviceName) : SupervisionAgent where
  servicesState := s.servicesState.set name (f (s.getState name))
  backoff := s.backoff
  escalationDeadline := s.escalationDeadline
  named n st h := by
    rw [Dict.get?_set] at h
    split_ifs at h with hn
    · cases h
      rw [hf, getState_serviceName, hn]
    · exact s.named n st h

def setBackoff (s : SupervisionAgent) (name : PyStr) (b : PyFloat) : SupervisionAgent :=
  { s with backoff := s.backoff.set name b }

def popBackoff (s : SupervisionAgent) (name : PyStr) : SupervisionAgent :=
  { s with backoff := s.backoff.pop name }

def setDeadline (s : SupervisionAgent) (name : PyStr) (d : PyFloat) : SupervisionAgent :=
  { s with escalationDeadline := s.escalationDeadline.set name d }

def popDeadline (s : SupervisionAgent) (name : PyStr) : SupervisionAgent :=
  { s with escalationDeadline := s.escalationDeadline.pop name }

end SupervisionAgent

section Poll

variable (P : Python) (fixed : PyFloat → PyStr) (cfg : SupervisionConfig) (alerting : Bool)

/-- `_emit`, when an `on_alert` is configured; what it raises is suppressed. -/
def emit (p : Poll) (i : Incident) : List Event :=
  if alerting then [.alerted i (p.onAlert i)] else []

/-- `state.incidents.append(incident)` and `self._emit(incident)` -/
def append (p : Poll) (name : PyStr) (i : Incident) (s : SupervisionAgent) :
    SupervisionAgent × List Event :=
  (s.modify name (fun st => { st with incidents := st.incidents ++ [i] }) fun _ => rfl,
    .recorded i :: emit alerting p i)

/-- The `DEGRADED` incident. -/
def degradedIncident (name : PyStr) (now : ℚ) : Incident :=
  ⟨now, name, .degraded, lit "Service " ++ P.repr (.str name) ++ lit " is unhealthy", none⟩

def restartedIncident (name : PyStr) (now : ℚ) (attempt : ℕ) : Incident :=
  ⟨now, name, .restarted, lit "Service " ++ P.repr (.str name) ++ lit " restarted (attempt "
    ++ intText attempt ++ lit ")", some attempt⟩

/-- The `ESCALATED` incident; `fixed` writes a float with no decimals. -/
def escalatedIncident (name : PyStr) (now : ℚ) (failures restarts : ℕ) : Incident :=
  ⟨now, name, .escalated, lit "Service " ++ P.repr (.str name) ++ lit " escalated after "
    ++ intText failures ++ lit " consecutive failures (" ++ intText restarts
    ++ lit " restart attempts); cooldown " ++ fixed cfg.escalationCooldownSeconds ++ lit "s", none⟩

/-- Still within the backoff since the last restart. -/
def withheld (lastRestart : Option ℚ) (currentBackoff : PyFloat) (now : ℚ) : Bool :=
  match lastRestart with
  | none => false
  | some t => currentBackoff.gt (now - t)

def nextBackoff (currentBackoff : PyFloat) : PyFloat :=
  if currentBackoff.truthy then currentBackoff.double.pyMin cfg.backoffMaxSeconds
  else cfg.backoffBaseSeconds

/-- `_attempt_restart` -/
def attemptRestart (p : Poll) (name : PyStr) (s : SupervisionAgent) :
    SupervisionAgent × List Event :=
  let currentBackoff := (s.backoff.get? name).getD (.finite 0)
  if withheld (s.getState name).lastRestart currentBackoff p.now then (s, [])
  else
    let s := s.setBackoff name (nextBackoff cfg currentBackoff)
    let attempt := (s.getState name).restartCount + 1
    let s := s.modify name
      (fun st => { st with restartCount := attempt, lastRestart := some p.now }) fun _ => rfl
    let r := append alerting p name (restartedIncident P name p.now attempt) s
    (r.1, .stop name p.stop :: .start name p.start :: r.2)

/-- `_escalate` -/
def escalate (p : Poll) (name : PyStr) (s : SupervisionAgent) : SupervisionAgent × List Event :=
  let s := s.modify name
    (fun st => { st with escalated := true, escalationTime := some p.now }) fun _ => rfl
  let s := (s.setDeadline name (cfg.escalationCooldownSeconds.add p.now)).popBackoff name
  let st := s.getState name
  append alerting p name
    (escalatedIncident P fixed cfg name p.now st.consecutiveFailures st.restartCount) s

/-- `_poll_service` -/
def pollService (name : PyStr) (p : Poll) (s : SupervisionAgent) :
    SupervisionAgent × List Event :=
  let s := s.modify name id fun _ => rfl
  if ((s.escalationDeadline.get? name).map fun d => d.gt p.now) = some true then (s, [])
  else
    let s := s.modify name (fun st => { st with lastHealthCheck := p.now }) fun _ => rfl
    let h := healthCheck (cfg.healthTimeoutSeconds.add p.started) p.rounds
    let asked := h.1.map (.health name)
    if h.2 then
      let s := s.modify name (fun st =>
        { st with healthy := true, consecutiveFailures := 0, escalated := false }) fun _ => rfl
      ((s.popBackoff name).popDeadline name, asked)
    else
      let s := s.modify name (fun st =>
        { st with healthy := false, consecutiveFailures := st.consecutiveFailures + 1,
                  lastFailure := some p.now }) fun _ => rfl
      if (s.getState name).escalated then (s, asked)
      else
        let noted := if (s.getState name).consecutiveFailures = 1 then
          append alerting p name (degradedIncident P name p.now) s else (s, [])
        let s := noted.1
        let r := if cfg.maxRestartAttempts < (s.getState name).consecutiveFailures then
          escalate P fixed cfg alerting p name s else attemptRestart P cfg alerting p name s
        (r.1, asked ++ noted.2 ++ r.2)

/-- The state when the backend has answered that the service is unhealthy. -/
def pollFailed (n : PyStr) (p : Poll) (s : SupervisionAgent) : SupervisionAgent :=
  ((s.modify n id fun _ => rfl).modify n (fun st => { st with lastHealthCheck := p.now })
    fun _ => rfl).modify n (fun st =>
      { st with healthy := false, consecutiveFailures := st.consecutiveFailures + 1,
                lastFailure := some p.now }) fun _ => rfl

/-- The state when the service has been found healthy. -/
def pollRecovered (n : PyStr) (p : Poll) (s : SupervisionAgent) : SupervisionAgent :=
  ((((s.modify n id fun _ => rfl).modify n (fun st => { st with lastHealthCheck := p.now })
    fun _ => rfl).modify n (fun st =>
      { st with healthy := true, consecutiveFailures := 0, escalated := false })
    fun _ => rfl).popBackoff n).popDeadline n

/-- The supervisor as it takes polls of any services, one after the other. -/
def supervision : Mealy SupervisionAgent (PyStr × Poll) Event :=
  ⟨fun s a => pollService P fixed cfg alerting a.1 a.2 s⟩

end Poll

end AgentComm.Supervision
