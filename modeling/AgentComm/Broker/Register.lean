import AgentComm.Broker.State

/-!
# Registration and deregistration
-/

namespace AgentComm

open Lib

variable (P : Python)

/-- What `_reject` is called with. -/
structure Rejection where
  status : ℕ
  detail : PyStr
  agentId : PyStr := lit "unknown"

/-- What a register payload says once validated; `ttl` is none when the payload has no
`ttl_seconds`. -/
structure Registration where
  endpoint : Endpoint
  caps : Fields
  ttl : Option ℤ

namespace Registration

def agentId (r : Registration) : PyStr := r.endpoint.agentId

/-- The TTL a registration sets: the explicit one, the default for a new agent, or none. -/
def ttlToSet (cfg : ServerConfig) (r : Registration) (isNew : Bool) : Option ℤ :=
  match r.ttl with
  | some t => some t
  | none => if isNew then some cfg.defaultTtlSeconds else none

end Registration

/-! ### The payload's fields, in the order they are checked -/

def checkAgentId : Json → Except Rejection PyStr
  | .str (c :: a) =>
    if (c :: a).length > 255 then
      .error ⟨400, lit "agent_id must not exceed 255 characters", c :: a⟩
    else .ok (c :: a)
  | _ => .error
      { status := 400, detail := lit "agent_id is required and must be a non-empty string" }

/-- With authentication on, the id in the body must be the authenticated one. -/
def checkIdentity (auth agentId : PyStr) : Except Rejection Unit :=
  if auth ≠ [] ∧ agentId ≠ auth then .error ⟨403, lit "agent_id does not match token", auth⟩
  else .ok ()

def checkHost (agentId : PyStr) : Json → Except Rejection PyStr
  | .str (c :: h) =>
    if (c :: h).length > 253 then
      .error ⟨400, lit "host must not exceed 253 characters", agentId⟩
    else .ok (c :: h)
  | _ => .error ⟨400, lit "host is required and must be a non-empty string", agentId⟩

def checkPort (agentId : PyStr) (v : Json) : Except Rejection ℤ :=
  match v.asInt? with
  | some port =>
    if 1 ≤ port ∧ port ≤ 65535 then .ok port
    else .error ⟨400, lit "port must be between 1 and 65535", agentId⟩
  | none => .error ⟨400, lit "port is required and must be an integer", agentId⟩

/-- The placeholder host and port of a mailbox agent that gives no usable ones. -/
def mailboxAddress (host port : Json) : PyStr × ℤ :=
  ((match host with
    | .str (c :: h) => c :: h
    | _ => lit "mailbox"),
    match port.asInt? with
    | some p => if 1 ≤ p ∧ p ≤ 65535 then p else 0
    | none => 0)

def checkAddress (mailbox : Bool) (agentId : PyStr) (host port : Json) :
    Except Rejection (PyStr × ℤ) :=
  if mailbox then .ok (mailboxAddress host port)
  else do
    let h ← checkHost agentId host
    let p ← checkPort agentId port
    return (h, p)

def checkScheme (agentId : PyStr) : Option Json → Except Rejection PyStr
  | none => .ok (lit "http")
  | some (.str s) =>
    if s = lit "http" ∨ s = lit "https" then .ok s
    else .error ⟨400, lit "scheme must be 'http' or 'https'", agentId⟩
  | some _ => .error ⟨400, lit "scheme must be 'http' or 'https'", agentId⟩

def checkPath (agentId : PyStr) : Option Json → Except Rejection PyStr
  | none => .ok defaultMessagePath
  | some (.str (47 :: p)) => .ok (47 :: p)
  | some _ => .error ⟨400, lit "path must be a string starting with '/'", agentId⟩

def checkCapabilities (agentId : PyStr) : Option Json → Except Rejection Fields
  | none => .ok []
  | some (.obj caps) => .ok caps
  | some _ => .error ⟨400, lit "capabilities must be a JSON object", agentId⟩

def checkTtl (agentId : PyStr) : Option Json → Except Rejection (Option ℤ)
  | none => .ok none
  | some v =>
    match v.asInt? with
    | some t =>
      if t < 0 then .error ⟨400, lit "ttl_seconds must be a non-negative integer", agentId⟩
      else .ok (some t)
    | none => .error ⟨400, lit "ttl_seconds must be a non-negative integer", agentId⟩

/-- `_validate_register_payload`, up to its look at the registry. -/
def validateRegisterPayload (data : Fields) (auth : PyStr) : Except Rejection Registration := do
  let mailbox := (data.get (lit "mailbox")).truthy
  let agentId ← checkAgentId (data.get (lit "agent_id"))
  checkIdentity auth agentId
  let (host, port) ← checkAddress mailbox agentId (data.get (lit "host")) (data.get (lit "port"))
  let scheme ← checkScheme agentId (Pairs.get? (lit "scheme") data)
  let path ← checkPath agentId (Pairs.get? (lit "path") data)
  let caps ← checkCapabilities agentId (Pairs.get? (lit "capabilities") data)
  let ttl ← checkTtl agentId (Pairs.get? (lit "ttl_seconds") data)
  return { endpoint := { agentId, host, port, scheme, path, mailbox }, caps, ttl }

/-- `is_new`, the last thing `_validate_register_payload` finds out. -/
def Stores.isNew (s : Stores) (a : PyStr) : Bool := (s.registry.get? a).isNone

/-- The sections `_handle_register` goes through once the payload is accepted. -/
def registerStores (cfg : ServerConfig) (now : ℚ) (r : Registration) (isNew : Bool)
    (s : Stores) : Stores :=
  let s := s.putEndpoint r.endpoint
  let s := if r.endpoint.mailbox then s.ensureMailbox r.agentId else s
  let s := s.putCapabilities r.agentId r.caps
  s.registerHeartbeat r.agentId now (r.ttlToSet cfg isNew)

/-- The sections that take an agent out, those of `_handle_deregister` and of an eviction. -/
def removeStores (a : PyStr) (s : Stores) : Stores :=
  (((s.delEndpoint a).delCapabilities a).delHeartbeat a).dropMailbox a

def reject (env : Env) (b : Broker) (r : Rejection) : Outcome × Broker :=
  answerThenLog b ⟨env.wallTime, lit "register", r.agentId, lit "/agents", r.status, r.detail⟩
    (errorResponse r.status r.detail)

/-- What `_handle_register` does with an accepted payload. -/
def acceptRegistration (cfg : ServerConfig) (env : Env) (b : Broker) (r : Registration) :
    Outcome × Broker :=
  let isNew := b.stores.isNew r.agentId
  let b := { b with stores := registerStores cfg env.monotonic.register r isNew b.stores }
  let status := if isNew then 201 else 200
  logThenAnswer b
    ⟨env.wallTime, lit "register", r.agentId, lit "/agents", status,
      if isNew then lit "created" else lit "updated"⟩
    ⟨status, .json [(lit "agent_id", .str r.agentId)], none⟩

def handleRegister (cfg : ServerConfig) (env : Env) (req : Request) (auth : PyStr) (b : Broker) :
    Outcome × Broker :=
  match readBody P cfg req with
  | .tooLarge r e => (⟨[r], e⟩, b)
  | .raises e => (.crash e, b)
  | .text raw =>
    match P.jsonLoads raw with
    | .error e =>
      if e.isValueError then reject env b { status := 400, detail := lit "invalid JSON body" }
      else (.crash e, b)
    | .ok (.obj data) =>
      match validateRegisterPayload data auth with
      | .error r => reject env b r
      | .ok r => acceptRegistration cfg env b r
    | .ok _ => reject env b { status := 400, detail := lit "body must be a JSON object" }

/-- `"/agents/"` -/
def agentsPrefix : PyStr := lit "/agents/"

def parseAgentIdFromPath (path : PyStr) : Except Exc PyStr :=
  (Url.urlsplit P path).map fun parsed =>
    if agentsPrefix.isPrefixOf parsed.1 then parsed.1.drop agentsPrefix.length else []

def handleDeregister (env : Env) (req : Request) (auth : PyStr) (b : Broker) : Outcome × Broker :=
  match parseAgentIdFromPath P req.path with
  | .error e => (.crash e, b)
  | .ok a =>
    if a = [] then
      answerThenLog b
        ⟨env.wallTime, lit "deregister", lit "unknown", req.path, 400,
          lit "missing agent_id in path"⟩
        (errorResponse 400 (lit "missing agent_id in path"))
    else if auth ≠ [] ∧ a ≠ auth then
      answerThenLog b
        ⟨env.wallTime, lit "deregister", auth, req.path, 403,
          lit "agent_id does not match token"⟩
        (errorResponse 403 (lit "agent_id does not match token"))
    else
      logThenAnswer { b with stores := removeStores a b.stores }
        ⟨env.wallTime, lit "deregister", a, agentsPrefix ++ a, 204, lit "deregistered"⟩
        ⟨204, .none, none⟩

end AgentComm
