import AgentComm.Lifecycle.Supervision
import Mathlib.Data.List.DropRight

/-!
# The supervisor's status page

`start` sets up a state for each service, the loop polls them in cycles, and `GET /status` tells
what is kept about each. Between two polls the page is read off the state they left.
-/

namespace AgentComm.Supervision

open Lib

def IncidentKind.value : IncidentKind → PyStr
  | degraded => lit "degraded"
  | restarted => lit "restarted"
  | escalated => lit "escalated"

/-- A time that may be `None`. -/
def optionalTime (t : Option ℚ) : Json := t.elim .null fun t => .float (.finite t)

/-- An entry of `recent_incidents`. -/
def Incident.summary (i : Incident) : Json :=
  .obj [(lit "timestamp", .float (.finite i.timestamp)), (lit "kind", .str i.kind.value),
    (lit "message", .str i.message), (lit "attempt", i.attempt.elim .null fun n => .int n)]

/-- `incidents[-10:]` -/
def recentIncidents (st : ServiceState) : List Incident := st.incidents.rtake 10

/-- What the page says of a service. -/
def ServiceState.summary (st : ServiceState) : Json :=
  .obj [(lit "healthy", .bool st.healthy),
    (lit "consecutive_failures", .int st.consecutiveFailures),
    (lit "restart_count", .int st.restartCount), (lit "escalated", .bool st.escalated),
    (lit "last_health_check", .float (.finite st.lastHealthCheck)),
    (lit "last_failure", optionalTime st.lastFailure),
    (lit "last_restart", optionalTime st.lastRestart),
    (lit "escalation_time", optionalTime st.escalationTime),
    (lit "recent_incidents", .arr ((recentIncidents st).map Incident.summary))]

theorem serviceName_id (st : ServiceState) : (id st).serviceName = st.serviceName := rfl

namespace SupervisionAgent

/-- The states that `start` sets up, for the services that have none. -/
def initServices (services : List PyStr) (s : SupervisionAgent) : SupervisionAgent :=
  services.foldl (fun s name =>
    if s.servicesState.contains name then s else s.modify name id serviceName_id) s

/-- `_handle_status`, for a supervisor whose poll loop runs or not and has begun `pollCount`
cycles. -/
def handleStatus (running : Bool) (pollCount : ℕ) (s : SupervisionAgent) : ℕ × Fields :=
  (200, [(lit "services", .obj (s.servicesState.entries.map fun e => (e.1, e.2.summary))),
    (lit "running", .bool running), (lit "poll_count", .int pollCount)])

/-- `do_GET` of the status server. -/
def doGET (path : PyStr) (running : Bool) (pollCount : ℕ) (s : SupervisionAgent) : ℕ × Fields :=
  if path = lit "/status" then s.handleStatus running pollCount
  else (404, [(lit "error", .str (lit "not found"))])

end SupervisionAgent

/-- The polls of a cycle, service by service. The stop event may cut a cycle short. -/
def cyclePolls (services : List PyStr) (cycle : List Poll) : List (PyStr × Poll) :=
  services.zip cycle

/-- The polls of the cycles of `_poll_loop`, of one loop or of several started one after the
other. -/
def loopPolls (services : List PyStr) (cycles : List (List Poll)) : List (PyStr × Poll) :=
  cycles.flatMap (cyclePolls services)

end AgentComm.Supervision
