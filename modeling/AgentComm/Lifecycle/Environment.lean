import AgentComm.Lib.Words
import AgentComm.Lifecycle.Supervision

/-!
# The supervisor's environment

What `SupervisionConfig.from_env` makes of the variables it reads.
-/

namespace AgentComm.Supervision

open Lib

/-- `s.split()`. -/
def splitWords (s : PyStr) : List PyStr := words isSpace s

/-- `_parse_service_list`, with 44 the comma and 32 the blank. -/
def parseServiceList (raw : PyStr) : List PyStr :=
  if raw = [] then []
  else (splitWords (raw.map fun c => if c = 44 then 32 else c)).filter (· ≠ [])

/-- A configuration with its services and the address of the status server. -/
structure Settings extends SupervisionConfig where
  services : List PyStr
  statusHost : PyStr
  statusPort : ℤ

namespace Settings

variable (P : Python)

/-- The configuration an environment spells out, not yet validated. -/
def parseEnv (get : PyStr → PyStr → PyStr) : Except Exc Settings := do
  let pollIntervalSeconds ←
    P.float (get (lit "ROBOTSIX_SUPERVISION_POLL_INTERVAL_SECONDS") (lit "30.0"))
  let healthTimeoutSeconds ←
    P.float (get (lit "ROBOTSIX_SUPERVISION_HEALTH_TIMEOUT_SECONDS") (lit "10.0"))
  let maxRestartAttempts ←
    P.int (get (lit "ROBOTSIX_SUPERVISION_MAX_RESTART_ATTEMPTS") (lit "3"))
  let backoffBaseSeconds ←
    P.float (get (lit "ROBOTSIX_SUPERVISION_BACKOFF_BASE_SECONDS") (lit "5.0"))
  let backoffMaxSeconds ←
    P.float (get (lit "ROBOTSIX_SUPERVISION_BACKOFF_MAX_SECONDS") (lit "300.0"))
  let escalationCooldownSeconds ←
    P.float (get (lit "ROBOTSIX_SUPERVISION_ESCALATION_COOLDOWN_SECONDS") (lit "600.0"))
  let services := parseServiceList (get (lit "ROBOTSIX_SUPERVISION_SERVICES") [])
  let statusHost := get (lit "ROBOTSIX_SUPERVISION_STATUS_HOST") (lit "127.0.0.1")
  let statusPort ← P.int (get (lit "ROBOTSIX_SUPERVISION_STATUS_PORT") (lit "0"))
  return {
    pollIntervalSeconds, healthTimeoutSeconds, maxRestartAttempts, backoffBaseSeconds
    backoffMaxSeconds, escalationCooldownSeconds, services, statusHost, statusPort }

/-- `from_env` -/
def fromEnv (env : PyStr → Option PyStr) : Except Exc Settings := do
  let c ← parseEnv P fun key default => (env key).getD default
  let _ ← c.validate
  return c

end Settings

end AgentComm.Supervision
