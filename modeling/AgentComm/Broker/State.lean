import AgentComm.Broker.Stores
import AgentComm.Transport.Delivery
import AgentComm.Url

/-!
# The broker's state, its requests and its answers
-/

namespace AgentComm

open Lib

variable (P : Python)

/-- `_TokenBucket` with the broker's capacity, its rate. -/
structure TokenBucket where
  rate : ℚ
  tokens : ℚ
  lastRefill : ℚ

def TokenBucket.new (rate now : ℚ) : TokenBucket := ⟨rate, rate, now⟩

/-- `consume(1.0)` -/
def TokenBucket.consume (b : TokenBucket) (now : ℚ) : Bool × TokenBucket :=
  let tokens := min b.rate (b.tokens + (now - b.lastRefill) * b.rate)
  if 1 ≤ tokens then (true, { b with tokens := tokens - 1, lastRefill := now })
  else (false, { b with tokens, lastRefill := now })

/-- What `BrokerServer` is built with and does not change. -/
structure ServerConfig where
  agentTokens : Option (Dict PyStr PyStr)
  defaultTtlSeconds : ℤ
  maxBodySize : ℤ
  rateLimitPerSecond : PyFloat
  mailboxGraceSeconds : PyFloat
  trafficBufferSize : ℕ
  dashboardEnabled : Bool
  routerTimeout : PyStr
  retryPolicy : RetryPolicy

def defaultRetryPolicy : RetryPolicy := ⟨1, 0, 0, 2⟩

def maxPollWaitSeconds : ℚ := 30

/-- The defaults of `BrokerServer.__init__`. -/
def ServerConfig.defaults : ServerConfig where
  agentTokens := none
  defaultTtlSeconds := 60
  maxBodySize := 1048576
  rateLimitPerSecond := .finite 0
  mailboxGraceSeconds := .finite maxPollWaitSeconds
  trafficBufferSize := 1000
  dashboardEnabled := false
  routerTimeout := lit "5.0"
  retryPolicy := defaultRetryPolicy

/-- The loop of `BrokerServer.__init__` that turns the id-to-token mapping round. -/
def tokenIndex (agentTokens : Dict PyStr PyStr) : Dict PyStr PyStr := agentTokens.invert

def ServerConfig.tokenToAgent (cfg : ServerConfig) : Dict PyStr PyStr :=
  cfg.agentTokens.elim Dict.empty tokenIndex

structure AuditRecord where
  timestamp : ℚ
  action : PyStr
  agentId : PyStr
  path : PyStr
  status : ℕ
  detail : PyStr

structure TrafficRecord where
  timestamp : ℚ
  source : Json
  destination : Json
  type : PyStr
  topic : Json
  messageId : PyStr
  correlationId : Option PyStr
  bodySizeBytes : ℕ
  disposition : PyStr
  status : ℕ

structure Broker where
  stores : Stores
  rateBuckets : Dict PyStr TokenBucket
  trafficBuffer : List TrafficRecord
  audit : List AuditRecord

/-- The broker as `BrokerServer.__init__` leaves it. -/
def Broker.init : Broker := ⟨Stores.empty, Dict.empty, [], []⟩

/-- A request as the handler sees it: the two headers it reads, and the bytes it may read. -/
structure Request where
  method : PyStr
  path : PyStr
  authorization : Option PyStr
  contentLength : Option PyStr
  body : List UInt8

/-- What `time.monotonic()` says where one request reads it. -/
structure Readings where
  bucket : ℚ
  consume : ℚ
  register : ℚ
  heartbeat : ℚ
  discovery : ℚ

/-- What one request meets: the clocks, fresh stamps, and the network at each attempt. -/
structure Env where
  monotonic : Readings
  wallTime : ℚ
  stamp : Stamp
  network : ℕ → HttpAnswer

inductive Payload
  | none
  | json (fields : Fields)
  | text (s : PyStr)
  | dashboard

structure Response where
  status : ℕ
  payload : Payload
  retryAfter : Option PyStr := .none

/-- What a handler does towards its client: the responses it writes, and the exception that
escapes it, if one does. -/
structure Outcome where
  written : List Response
  raised : Option Exc

namespace Outcome

def answer (r : Response) : Outcome := ⟨[r], none⟩

def crash (e : Exc) : Outcome := ⟨[], some e⟩

/-- The one status answered, if one response was written. -/
def status? (o : Outcome) : Option ℕ :=
  match o.written with
  | [r] => some r.status
  | _ => none

@[simp] theorem status?_answer (r : Response) : (answer r).status? = some r.status := rfl

@[simp] theorem status?_crash (e : Exc) : (crash e).status? = none := rfl

end Outcome

/-- `_write_error` -/
def errorResponse (status : ℕ) (message : PyStr) : Response :=
  ⟨status, .json [(lit "error", .str message)], none⟩

/-- `_AuditLogger.log`: the line goes out as UTF-8 text, so a lone surrogate in it raises. -/
def Broker.log (b : Broker) (r : AuditRecord) : Except Exc Broker :=
  if encodable r.action && encodable r.agentId && encodable r.path && encodable r.detail then
    .ok { b with audit := b.audit ++ [r] }
  else .error ⟨.unicodeEncodeError, lit "surrogates not allowed"⟩

theorem Broker.log_stores {b b' : Broker} {r : AuditRecord} (h : b.log r = .ok b') :
    b'.stores = b.stores := by
  unfold Broker.log at h
  split_ifs at h
  cases h
  rfl

/-- Log, then answer. -/
def logThenAnswer (b : Broker) (r : AuditRecord) (resp : Response) : Outcome × Broker :=
  match b.log r with
  | .ok b' => (.answer resp, b')
  | .error e => (.crash e, b)

/-- Answer, then log: a log that raises leaves the answer written. -/
def answerThenLog (b : Broker) (r : AuditRecord) (resp : Response) : Outcome × Broker :=
  match b.log r with
  | .ok b' => (.answer resp, b')
  | .error e => (⟨[resp], some e⟩, b)

@[simp] theorem logThenAnswer_stores (b : Broker) (r : AuditRecord) (resp : Response) :
    (logThenAnswer b r resp).2.stores = b.stores := by
  unfold logThenAnswer
  split
  · exact Broker.log_stores (by assumption)
  · rfl

@[simp] theorem answerThenLog_stores (b : Broker) (r : AuditRecord) (resp : Response) :
    (answerThenLog b r resp).2.stores = b.stores := by
  unfold answerThenLog
  split
  · exact Broker.log_stores (by assumption)
  · rfl

theorem answerThenLog_status (b : Broker) (r : AuditRecord) (resp : Response) :
    (answerThenLog b r resp).1.status? = some resp.status := by
  unfold answerThenLog
  split <;> rfl

/-- `rfile.read(length)`: everything when the length is minus one, and an exception below that. -/
def rfileRead (stream : List UInt8) (length : ℤ) : Except Exc (List UInt8) :=
  if length < -(2 ^ 63) then
    .error ⟨.overflowError, lit "cannot fit 'int' into an index-sized integer"⟩
  else if length < -1 then
    .error ⟨.valueError, lit "read length must be non-negative or -1"⟩
  else .ok (if length = -1 then stream else stream.take length.toNat)

theorem rfileRead_length (stream : List UInt8) : rfileRead stream stream.length = .ok stream := by
  unfold rfileRead
  rw [if_neg (by omega), if_neg (by omega), if_neg (by omega)]
  simp

/-- What `_read_body` comes to; the drain of a body that is too large may raise once the 413 is
written. -/
inductive BodyRead
  | tooLarge (r : Response) (drain : Option Exc)
  | text (raw : PyStr)
  | raises (e : Exc)

/-- `int(self.headers.get("Content-Length", 0))` -/
def declaredLength (req : Request) : Except Exc ℤ :=
  match req.contentLength with
  | none => .ok 0
  | some h => P.int h

/-- The bytes `_read_body` takes from the stream: those it decodes, or those of a body that is too
large that it drains. -/
def bodyBytes (cfg : ServerConfig) (req : Request) : List UInt8 :=
  match declaredLength P req with
  | .error _ => []
  | .ok length =>
    match rfileRead req.body (if length > cfg.maxBodySize then min length cfg.maxBodySize
      else length) with
    | .ok bytes => bytes
    | .error _ => []

def readBody (cfg : ServerConfig) (req : Request) : BodyRead :=
  match declaredLength P req with
  | .error e => .raises e
  | .ok length =>
    if length > cfg.maxBodySize then
      .tooLarge ⟨413, .json [(lit "error", .str (lit "request body too large")),
        (lit "max_bytes", .int cfg.maxBodySize), (lit "received_bytes", .int length)], none⟩
        (errorOf (rfileRead req.body (min length cfg.maxBodySize)))
    else match rfileRead req.body length with
      | .error e => .raises e
      | .ok bytes =>
        match P.utf8Decode bytes with
        | .ok raw => .text raw
        | .error e => .raises e

end AgentComm
