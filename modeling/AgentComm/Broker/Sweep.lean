import AgentComm.Broker.Register

/-!
# The eviction sweep
-/

namespace AgentComm

/-- The grace an agent has on top of its TTL. -/
def grace (cfg : ServerConfig) (mailbox : Bool) : PyFloat :=
  if mailbox then cfg.mailboxGraceSeconds else .finite 0

/-- `now - last_hb > ttl + grace`, for a TTL that expires at all. -/
def expired (cfg : ServerConfig) (now lastHb : ℚ) (ttl : ℤ) (mailbox : Bool) : Bool :=
  decide (0 < ttl) && !((grace cfg mailbox).add ttl).ge (now - lastHb)

/-- One turn of the sweep's loop, on an endpoint of its snapshot. -/
def sweepAgent (cfg : ServerConfig) (now : ℚ) (s : Stores) (endpoint : Endpoint) : Stores :=
  match s.lastHeartbeat.get? endpoint.agentId, s.ttlSeconds.get? endpoint.agentId with
  | some lastHb, some ttl =>
    if expired cfg now lastHb ttl endpoint.mailbox then removeStores endpoint.agentId s else s
  | _, _ => s

/-- `_sweep_once`, with nothing else running and no sum that raises. -/
def sweepOnce (cfg : ServerConfig) (now : ℚ) (s : Stores) : Stores :=
  s.registry.listAgents.foldl (sweepAgent cfg now) s

/-! ### Sums that raise -/

/-- The least `int` that is too large for a `float`. -/
def floatLimit : ℤ := 2 ^ 1024 - 2 ^ 970

/-- `ttl + grace` raises for the endpoint: `grace` is a `float`, and the TTL has none. -/
def sumRaises (s : Stores) (endpoint : Endpoint) : Bool :=
  match s.lastHeartbeat.get? endpoint.agentId, s.ttlSeconds.get? endpoint.agentId with
  | some _, some ttl => decide (floatLimit ≤ ttl)
  | _, _ => false

/-- The sweep's loop, up to the first sum that raises. -/
def sweepEndpoints (cfg : ServerConfig) (now : ℚ) : List Endpoint → Stores → Stores × Option Exc
  | [], s => (s, none)
  | endpoint :: rest, s =>
    if sumRaises s endpoint then
      (s, some ⟨.overflowError, lit "int too large to convert to float"⟩)
    else sweepEndpoints cfg now rest (sweepAgent cfg now s endpoint)

/-- `_sweep_once`, with nothing else running: the stores it leaves, and what it raises. -/
def trySweepOnce (cfg : ServerConfig) (now : ℚ) (s : Stores) : Stores × Option Exc :=
  sweepEndpoints cfg now s.registry.listAgents s

end AgentComm
