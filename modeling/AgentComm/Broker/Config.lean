import AgentComm.Broker.State

/-!
# Configuration and construction of the broker

`BrokerConfig.from_env` reads the environment and the token file and validates what it read;
`build_broker` makes a server of the result.
-/

namespace AgentComm

open Lib

variable (P : Python)

def valueError (text : PyStr) : Exc := ⟨.valueError, text⟩

/-- One entry of the inline token list; a blank one is skipped. -/
def parseInlineEntry (entry : PyStr) : Except Exc (Option (PyStr × PyStr)) :=
  let entry := strip entry
  let malformed (why : PyStr) : Exc :=
    valueError (lit "malformed token entry " ++ P.repr (.str entry) ++ lit ": " ++ why)
  if entry = [] then .ok none
  else match splitOnce 61 entry with
    | (_, none) => .error (malformed (lit "expected id=token format"))
    | (left, some right) =>
      let agentId := strip left
      let token := strip right
      if agentId = [] then .error (malformed (lit "agent_id is empty"))
      else if token = [] then .error (malformed (lit "token is empty"))
      else .ok (some (agentId, token))

def parseInlineTokens (raw : PyStr) : Except Exc (Dict PyStr PyStr) :=
  (splitAll 44 raw).foldlM (fun tokens entry => do
    match ← parseInlineEntry P entry with
    | none => return tokens
    | some (agentId, token) => return tokens.set agentId token) Dict.empty

/-- `type(v).__name__` -/
def typeName : Json → PyStr
  | .null => lit "NoneType"
  | .bool _ => lit "bool"
  | .int _ => lit "int"
  | .float _ => lit "float"
  | .str _ => lit "str"
  | .arr _ => lit "list"
  | .obj _ => lit "dict"

/-- The start of every message about the token file. -/
def tokensFile (path : PyStr) : PyStr :=
  lit "ROBOTSIX_BROKER_AGENT_TOKENS_FILE " ++ P.repr (.str path) ++ lit ": "

/-- One pair of the token file: its value must be a string. -/
def tokenPair (path : PyStr) (e : PyStr × Json) : Except Exc (PyStr × PyStr) :=
  match e.2 with
  | .str token => .ok (e.1, token)
  | v => .error (valueError (tokensFile P path ++ lit "token for " ++ P.repr (.str e.1)
      ++ lit " must be a string, got " ++ typeName v))

/-- The mapping in the text of the token file. -/
def parseTokensFile (path raw : PyStr) : Except Exc (Dict PyStr PyStr) :=
  match P.jsonLoads raw with
  | .error e =>
    if e.kind = .jsonDecodeError then
      .error (valueError (tokensFile P path ++ lit "invalid JSON: " ++ e.text))
    else .error e
  | .ok (.obj data) => (data.mapM (tokenPair P path)).map Dict.ofList
  | .ok v => .error (valueError (tokensFile P path
      ++ lit "top-level value must be a JSON object, got " ++ typeName v))

/-- `_parse_bool`; lower-casing only ASCII decides the same, as no other letter folds into the
three words. -/
def parseBool (raw : PyStr) : Bool :=
  (strip raw).map (fun c => if 65 ≤ c ∧ c ≤ 90 then c + 32 else c)
    ∈ [lit "1", lit "true", lit "yes"]

/-- The files and sockets the process can see. -/
structure Host where
  /-- the text of a file, or the exception of opening or decoding it -/
  readText : PyStr → Except Exc PyStr
  /-- `_file_readable` -/
  readable : PyStr → Bool
  loadCertChain : PyStr → PyStr → Except Exc Unit
  loadVerifyLocations : PyStr → Except Exc Unit
  bind : PyStr → ℤ → Except Exc Unit
  openAppend : PyStr → Except Exc Unit

structure BrokerConfig where
  host : PyStr
  port : ℤ
  env : PyStr
  tlsCert : Option PyStr
  tlsKey : Option PyStr
  tlsCa : Option PyStr
  requireClientCert : Bool
  agentTokens : Option (Dict PyStr PyStr)
  ttlSeconds : ℤ
  rateLimit : Option PyFloat
  maxBodySize : ℤ
  mailboxGraceSeconds : Option PyFloat
  auditLog : Option PyStr
  dashboardEnabled : Bool

namespace BrokerConfig

variable (host : Host)

def isProd (c : BrokerConfig) : Bool := c.env ≠ lit "development"

def tlsRequired : Exc :=
  valueError (lit "TLS is required in production: set ROBOTSIX_BROKER_TLS_CERT and ROBOTSIX_BROKER_TLS_KEY")

/-- The TLS part of `validate`, with the warnings it logs. -/
def validateTls (c : BrokerConfig) : Except Exc (List PyStr) :=
  if c.isProd then
    match c.tlsCert, c.tlsKey with
    | some cert, some key =>
      if !host.readable cert then
        .error (valueError (lit "TLS certificate file not found or not readable: "
          ++ P.repr (.str cert)))
      else if !host.readable key then
        .error (valueError (lit "TLS key file not found or not readable: " ++ P.repr (.str key)))
      else .ok []
    | _, _ => .error tlsRequired
  else match c.tlsCert, c.tlsKey with
    | some cert, some key =>
      if host.readable cert && host.readable key then .ok []
      else .ok [lit "DEVELOPMENT MODE: TLS certificate or key file is missing or unreadable — TLS will not be applied."]
    | _, _ => .ok [lit "DEVELOPMENT MODE: TLS is not configured — the broker will run without transport encryption. Set ROBOTSIX_BROKER_TLS_CERT and ROBOTSIX_BROKER_TLS_KEY to secure communication."]

/-- The mutual TLS part of `validate`. -/
def validateClientCert (c : BrokerConfig) : Except Exc Unit :=
  if c.requireClientCert then
    match c.tlsCa with
    | none => .error (valueError
        (lit "mutual TLS requires a CA bundle: set ROBOTSIX_BROKER_TLS_CA"))
    | some ca =>
      if host.readable ca then .ok ()
      else .error (valueError (lit "TLS CA file not found or not readable: " ++ P.repr (.str ca)))
  else .ok ()

/-- The authentication part of `validate`, with the warnings it logs. -/
def validateAuth (c : BrokerConfig) : Except Exc (List PyStr) :=
  if c.isProd then
    match c.agentTokens with
    | none => .error (valueError (lit "authentication is required in production: configure ROBOTSIX_BROKER_AGENT_TOKENS_FILE or ROBOTSIX_BROKER_AGENT_TOKENS"))
    | some tokens =>
      if tokens.entries = [] then
        .error (valueError (lit "authentication is required in production: agent tokens mapping is empty — at least one agent token must be configured"))
      else .ok []
  else match c.agentTokens with
    | none => .ok [lit "DEVELOPMENT MODE: authentication is not configured — the broker will accept anonymous requests. Set ROBOTSIX_BROKER_AGENT_TOKENS_FILE or ROBOTSIX_BROKER_AGENT_TOKENS to enable authentication."]
    | some tokens =>
      if tokens.entries = [] then .ok [lit "DEVELOPMENT MODE: agent tokens mapping is empty — the broker will reject all authenticated requests (no valid tokens).  Configure at least one token pair."]
      else .ok []

/-- `validate`: the warnings logged, or the first problem. -/
def validate (c : BrokerConfig) : Except Exc (List PyStr) := do
  let tls ← c.validateTls P host
  c.validateClientCert P host
  let auth ← c.validateAuth
  return tls ++ auth

/-- The token mapping of an environment: the file wins over the inline list. -/
def resolveTokens (get : PyStr → PyStr → PyStr) : Except Exc (Option (Dict PyStr PyStr)) :=
  let path := get (lit "ROBOTSIX_BROKER_AGENT_TOKENS_FILE") []
  let inlineTokens := get (lit "ROBOTSIX_BROKER_AGENT_TOKENS") []
  if path ≠ [] then
    match host.readText path with
    | .error e =>
      if e.isOSError then
        .error (valueError (tokensFile P path ++ lit "cannot read file: " ++ e.text))
      else .error e
    | .ok raw => (parseTokensFile P path raw).map some
  else if inlineTokens ≠ [] then (parseInlineTokens P inlineTokens).map some
  else .ok none

/-- `raw or None` -/
def orNone (raw : PyStr) : Option PyStr := if raw = [] then none else some raw

/-- `float(raw) if raw else None` -/
def floatOrNone (raw : PyStr) : Except Exc (Option PyFloat) :=
  if raw = [] then .ok none else (P.float raw).map some

/-- The configuration an environment spells out, not yet validated. -/
def parseEnv (get : PyStr → PyStr → PyStr) : Except Exc BrokerConfig := do
  let agentTokens ← resolveTokens P host get
  let port ← P.int (get (lit "ROBOTSIX_BROKER_PORT") (lit "8443"))
  let ttlSeconds ← P.int (get (lit "ROBOTSIX_BROKER_TTL_SECONDS") (lit "60"))
  let rateLimit ← floatOrNone P (get (lit "ROBOTSIX_BROKER_RATE_LIMIT") [])
  let maxBodySize ← P.int (get (lit "ROBOTSIX_BROKER_MAX_BODY_SIZE") (lit "1048576"))
  let mailboxGraceSeconds ← floatOrNone P (get (lit "ROBOTSIX_BROKER_MAILBOX_GRACE_SECONDS") [])
  return {
    host := get (lit "ROBOTSIX_BROKER_HOST") (lit "0.0.0.0")
    port
    env := get (lit "ROBOTSIX_BROKER_ENV") (lit "production")
    tlsCert := orNone (get (lit "ROBOTSIX_BROKER_TLS_CERT") [])
    tlsKey := orNone (get (lit "ROBOTSIX_BROKER_TLS_KEY") [])
    tlsCa := orNone (get (lit "ROBOTSIX_BROKER_TLS_CA") [])
    requireClientCert := parseBool (get (lit "ROBOTSIX_BROKER_REQUIRE_CLIENT_CERT") [])
    agentTokens, ttlSeconds, rateLimit, maxBodySize
    auditLog := orNone (get (lit "ROBOTSIX_BROKER_AUDIT_LOG") [])
    mailboxGraceSeconds
    dashboardEnabled := parseBool (get (lit "ROBOTSIX_BROKER_DASHBOARD_ENABLED") []) }

/-- `from_env`: a variable that is not set has the default its reading gives it. -/
def fromEnv (env : PyStr → Option PyStr) : Except Exc BrokerConfig := do
  let c ← parseEnv P host fun key default => (env key).getD default
  let _ ← c.validate P host
  return c

end BrokerConfig

structure TlsContext where
  cert : PyStr
  key : PyStr
  ca : Option PyStr
  clientCertRequired : Bool

structure BrokerServer where
  config : ServerConfig
  tls : Option TlsContext
  auditLogPath : Option PyStr

/-- The SSL context `build_broker` makes, if certificate and key are set. -/
def buildTls (host : Host) (c : BrokerConfig) : Except Exc (Option TlsContext) :=
  match c.tlsCert, c.tlsKey with
  | some cert, some key => do
    host.loadCertChain cert key
    match c.tlsCa with
    | some ca => host.loadVerifyLocations ca
    | none => pure ()
    return some ⟨cert, key, c.tlsCa, c.requireClientCert⟩
  | _, _ => .ok none

/-- `build_broker`, and the `BrokerServer` constructor it ends in. -/
def buildBroker (host : Host) (c : BrokerConfig) : Except Exc BrokerServer := do
  let tls ← buildTls host c
  if c.requireClientCert ∧ tls.isNone then
    throw (valueError (lit "require_client_cert requires ssl_context"))
  host.bind c.host c.port
  match c.auditLog with
  | some path => host.openAppend path
  | none => pure ()
  return {
    config :=
      { ServerConfig.defaults with
        agentTokens := c.agentTokens
        defaultTtlSeconds := c.ttlSeconds
        maxBodySize := c.maxBodySize
        rateLimitPerSecond := c.rateLimit.getD ServerConfig.defaults.rateLimitPerSecond
        mailboxGraceSeconds := c.mailboxGraceSeconds.getD ServerConfig.defaults.mailboxGraceSeconds
        dashboardEnabled := c.dashboardEnabled }
    tls
    auditLogPath := c.auditLog }

/-! ### A machine for plain inputs -/

/-- A machine with some text files, where nothing fails. -/
def plainHost (files : List (PyStr × PyStr)) : Host where
  readText path := match Pairs.get? path files with
    | some text => .ok text
    | none => .error ⟨.osError, lit "No such file or directory"⟩
  readable _ := true
  loadCertChain _ _ := .ok ()
  loadVerifyLocations _ := .ok ()
  bind _ _ := .ok ()
  openAppend _ := .ok ()

/-- An environment with TLS and one setting about tokens. -/
def productionVars (name value : PyStr) (key : PyStr) : Option PyStr :=
  Pairs.get? key [(lit "ROBOTSIX_BROKER_TLS_CERT", lit "cert.pem"),
    (lit "ROBOTSIX_BROKER_TLS_KEY", lit "key.pem"), (name, value)]

/-- The broker an environment configures. -/
def configured (host : Host) (vars : PyStr → Option PyStr) :
    Except Exc (BrokerConfig × BrokerServer) := do
  let c ← BrokerConfig.fromEnv P host vars
  let srv ← buildBroker host c
  return (c, srv)

theorem configured_of_check (host : Host) (vars : PyStr → Option PyStr)
    (p : BrokerConfig × BrokerServer → Bool)
    (h : (configured P host vars).toOption.map p = some true) :
    ∃ c srv, BrokerConfig.fromEnv P host vars = .ok c ∧ buildBroker host c = .ok srv
      ∧ p (c, srv) = true := by
  obtain ⟨⟨c, srv⟩, hr, hp⟩ := Option.map_eq_some_iff.1 h
  rcases hx : configured P host vars with e | r <;> rw [hx] at hr <;> cases hr
  obtain ⟨c', hc, hx⟩ := bind_eq_ok hx
  obtain ⟨srv', hs, hx⟩ := bind_eq_ok hx
  cases hx
  exact ⟨c, srv, hc, hs, hp⟩

end AgentComm
