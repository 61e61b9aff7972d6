import AgentComm.Broker.Messaging

/-!
# The request handler

Authentication, rate limiting and the dispatch on method and path.
-/

namespace AgentComm

open Lib

variable (P : Python)

/-- What `_authenticate` comes to: an agent id, a 401, or an exception of `urlsplit`. -/
inductive AuthResult
  | agent (id : PyStr)
  | denied (detail : PyStr)
  | raises (e : Exc)
deriving DecidableEq

def bearerPrefix : PyStr := lit "Bearer "

def missingAuthorization : PyStr := lit "missing or invalid Authorization header"

/-- `_authenticate`: the empty id when authentication is off. -/
def authenticate (cfg : ServerConfig) (allowQueryToken : Bool) (req : Request) : AuthResult :=
  if cfg.agentTokens = none then .agent []
  else
    let header := req.authorization.getD []
    if header ≠ [] then
      if bearerPrefix.isPrefixOf header then
        match cfg.tokenToAgent.get? (header.drop bearerPrefix.length) with
        | some id => .agent id
        | none => .denied (lit "invalid token")
      else .denied missingAuthorization
    else if allowQueryToken then
      match Url.urlsplit P req.path with
      | .error e => .raises e
      | .ok (_, query) =>
        let token := (Url.queryGet P query (lit "token")).getD []
        if token ≠ [] then
          match cfg.tokenToAgent.get? token with
          | some id => .agent id
          | none => .denied missingAuthorization
        else .denied missingAuthorization
    else .denied missingAuthorization

/-- `_check_rate_limit`: whether the request passes, and the buckets after it. An infinite rate
lets everything pass and an undefined one nothing. -/
def checkRateLimit (cfg : ServerConfig) (clock : Readings) (key : PyStr)
    (buckets : Dict PyStr TokenBucket) : Bool × Dict PyStr TokenBucket :=
  if cfg.rateLimitPerSecond.le 0 then (true, buckets)
  else match cfg.rateLimitPerSecond with
    | .finite rate =>
      let bucket := (buckets.get? key).getD (TokenBucket.new rate clock.bucket)
      let (passed, bucket) := bucket.consume clock.consume
      (passed, buckets.set key bucket)
    | .nan => (false, buckets)
    | _ => (true, buckets)

def rateLimitedResponse : Response :=
  ⟨429, .json [(lit "error", .str (lit "rate limit exceeded")),
    (lit "retry_after", .float (.finite 1))], some (lit "1")⟩

/-- The principal the rate limit is kept for. -/
def rateKey (id : PyStr) : PyStr := if id ≠ [] then id else lit "__anonymous__"

/-- `_authenticated_and_rate_limited`, then the rest of the request. -/
def withAgent (cfg : ServerConfig) (env : Env) (allowQueryToken : Bool) (req : Request)
    (b : Broker) (k : PyStr → Broker → Outcome × Broker) : Outcome × Broker :=
  match authenticate P cfg allowQueryToken req with
  | .raises e => (.crash e, b)
  | .denied detail => (.answer (errorResponse 401 detail), b)
  | .agent id =>
    let (passed, buckets) := checkRateLimit cfg env.monotonic (rateKey id) b.rateBuckets
    let b := { b with rateBuckets := buckets }
    if passed then k id b else (.answer rateLimitedResponse, b)

/-! ### Discovery -/

inductive AgentStatus
  | active
  | stale
  | unknown
deriving DecidableEq

def AgentStatus.value : AgentStatus → PyStr
  | active => lit "active"
  | stale => lit "stale"
  | unknown => lit "unknown"

def agentStatus (heartbeat : Option ℚ) (ttl : Option ℤ) (now : ℚ) : AgentStatus :=
  match ttl with
  | none => .unknown
  | some t =>
    if t ≤ 0 then .active
    else match heartbeat with
      | none => .unknown
      | some h => if now - h ≤ t then .active else .stale

def buildAgentEntry (s : Stores) (now : ℚ) (agentId : PyStr) (caps : Fields) : Fields :=
  let heartbeat := s.lastHeartbeat.get? agentId
  let ttl := s.ttlSeconds.get? agentId
  [(lit "agent_id", .str agentId), (lit "capabilities", .obj caps),
    (lit "last_seen_seconds_ago", heartbeat.elim .null fun h => .float (.finite (now - h))),
    (lit "ttl_seconds", ttl.elim .null .int),
    (lit "status", .str (agentStatus heartbeat ttl now).value),
    (lit "mailbox", .bool ((s.registry.get? agentId).elim false Endpoint.mailbox))]

/-- The agents `GET /agents` lists, in order. -/
def discover (s : Stores) (now : ℚ) : List Fields :=
  s.capabilities.entries.map fun e => buildAgentEntry s now e.1 e.2

/-! ### Traffic -/

def TrafficRecord.fields (r : TrafficRecord) : Fields :=
  [(lit "timestamp", .float (.finite r.timestamp)), (lit "source", r.source),
    (lit "destination", r.destination), (lit "type", .str r.type), (lit "topic", r.topic),
    (lit "message_id", .str r.messageId), (lit "correlation_id", optStr r.correlationId),
    (lit "body_size_bytes", .int r.bodySizeBytes), (lit "disposition", .str r.disposition),
    (lit "status", .int r.status)]

/-- A text parameter that is empty or missing filters nothing. -/
def textFilter (v : Option PyStr) (keep : PyStr → TrafficRecord → Bool) (r : TrafficRecord) :
    Bool :=
  match v with
  | some (c :: t) => keep (c :: t) r
  | _ => true

/-- A bound that does not parse filters nothing. -/
def boundFilter (v : Except Exc PyFloat) (keep : PyFloat → TrafficRecord → Bool)
    (r : TrafficRecord) : Bool :=
  match v with
  | .ok x => keep x r
  | .error _ => true

/-- The records kept by a limit, the last ones. -/
def limitTo (cfg : ServerConfig) (v : Except Exc ℤ) (records : List TrafficRecord) :
    List TrafficRecord :=
  match v with
  | .ok limit =>
    if limit ≤ 0 then records
    else
      let maxlen := if cfg.trafficBufferSize = 0 then 1000 else cfg.trafficBufferSize
      records.drop (records.length - min limit.toNat maxlen)
  | .error _ => records

def handleTraffic (cfg : ServerConfig) (req : Request) (b : Broker) : Outcome × Broker :=
  match Url.urlsplit P req.path with
  | .error e => (.crash e, b)
  | .ok (_, query) =>
    let param (name : String) : PyStr := (Url.queryGet P query (lit name)).getD []
    let records := b.trafficBuffer
      |>.filter (textFilter (Url.queryGet P query (lit "agent")) fun a r =>
          r.source.asStr? = some a || r.destination.asStr? = some a)
      |>.filter (textFilter (Url.queryGet P query (lit "topic")) fun t r =>
          r.topic.asStr? = some t)
      |>.filter (boundFilter (P.float (param "since")) fun x r => x.le r.timestamp)
      |>.filter (boundFilter (P.float (param "until")) fun x r => x.ge r.timestamp)
    let records := limitTo cfg (P.int (param "limit")) records
    (.answer ⟨200, .json [(lit "traffic", .arr (records.map fun r => .obj r.fields))], none⟩, b)

/-! ### Dispatch -/

def notFound : Response := errorResponse 404 (lit "not found")

/-- The paths that accept a token in the query. -/
def dashboardReadingPaths : List PyStr := [lit "/dashboard", lit "/", lit "/agents", lit "/traffic"]

/-- `do_GET` past authentication, on the path without its query. -/
def serveGet (cfg : ServerConfig) (env : Env) (req : Request) (parsedPath auth : PyStr)
    (b : Broker) : Outcome × Broker :=
  if parsedPath = lit "/agents" then
    (.answer ⟨200, .json [(lit "agents",
      .arr ((discover b.stores env.monotonic.discovery).map .obj))], none⟩, b)
  else if parsedPath = lit "/traffic" then handleTraffic P cfg req b
  else if parsedPath = defaultMessagePath then handlePoll P cfg env req auth b
  else if cfg.dashboardEnabled ∧ (parsedPath = lit "/dashboard" ∨ parsedPath = lit "/") then
    (.answer ⟨200, .dashboard, none⟩, b)
  else (.answer notFound, b)

/-- `do_GET`: the health probe comes before authentication. -/
def doGET (cfg : ServerConfig) (env : Env) (req : Request) (b : Broker) : Outcome × Broker :=
  if req.path = healthPath then
    (.answer ⟨200, .json [(lit "status", .str (lit "ok"))], none⟩, b)
  else match Url.urlsplit P req.path with
    | .error e => (.crash e, b)
    | .ok (parsedPath, _) =>
      withAgent P cfg env (dashboardReadingPaths.contains parsedPath) req b
        (serveGet P cfg env req parsedPath)

/-- `do_POST` past authentication. -/
def servePost (cfg : ServerConfig) (env : Env) (req : Request) (auth : PyStr) (b : Broker) :
    Outcome × Broker :=
  if req.path = lit "/agents" then handleRegister P cfg env req auth b
  else if req.path = defaultMessagePath then handleSend P cfg env req auth b
  else (.answer notFound, b)

def doPOST (cfg : ServerConfig) (env : Env) (req : Request) (b : Broker) : Outcome × Broker :=
  withAgent P cfg env false req b (servePost P cfg env req)

/-- The bytes of its body a POST has read: none where it is turned away before. -/
def postBytes (cfg : ServerConfig) (env : Env) (req : Request) (b : Broker) : List UInt8 :=
  match authenticate P cfg false req with
  | .agent id =>
    if (checkRateLimit cfg env.monotonic (rateKey id) b.rateBuckets).1
        && (req.path = lit "/agents" || req.path = defaultMessagePath) then
      bodyBytes P cfg req
    else []
  | _ => []

/-- `do_DELETE` past authentication. -/
def serveDelete (env : Env) (req : Request) (auth : PyStr) (b : Broker) : Outcome × Broker :=
  if agentsPrefix.isPrefixOf req.path then handleDeregister P env req auth b
  else (.answer notFound, b)

def doDELETE (cfg : ServerConfig) (env : Env) (req : Request) (b : Broker) : Outcome × Broker :=
  withAgent P cfg env false req b (serveDelete P env req)

/-- One request: the base class dispatches on the method and answers 501 to one that has no
`do_` function. -/
def handle (cfg : ServerConfig) (env : Env) (req : Request) (b : Broker) : Outcome × Broker :=
  if req.method = lit "GET" then doGET P cfg env req b
  else if req.method = lit "POST" then doPOST P cfg env req b
  else if req.method = lit "DELETE" then doDELETE P cfg env req b
  else (.answer ⟨501, .none, none⟩, b)

end AgentComm
