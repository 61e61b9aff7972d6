import AgentComm.Broker.Handler
import AgentComm.Sdk.Agent
import AgentComm.Sdk.Waiters
import AgentComm.Transport.Requests

/-!
# A request and its reply

`send_request` in the two modes. In direct mode the recipient's server calls the handler inside the
POST. In pull mode the recipient's receive-loop fetches the request from its mailbox, a task of its
handler pool calls the handler and posts the reply, and the requester's receive-loop fetches that.
The exchange says what the caller gets and how often the handler was called.
-/

namespace AgentComm

open Lib

variable (P : Python)

/-- What a call of the request handler comes to. `json.dumps` raises on an unsendable message. -/
inductive HandlerResult
  | returned (reply : Option Message)
  | unsendable (correlationId : Option PyStr) (e : Exc)
  | raised (e : Exc)

/-- `Error.to(request, code=code, message=message, sender=sender)` -/
def Error.toFrom (st : Stamp) (request : Message) (code message sender : PyStr) : Message :=
  { Error.to st request code message with
    metadata := buildReplyMetadata st request (some (.str sender)) }

namespace Agent

/-- The retry policy of an agent that is given none. -/
def defaultRetryPolicy : RetryPolicy := ⟨3, 1 / 10, 2, 2⟩

/-- The agent's id and its callbacks; a notification handler may raise. -/
structure Callbacks where
  agentId : PyStr
  request : Option (Message → HandlerResult)
  notification : Option (Message → Option Exc)

/-- `_handle`, and how often it calls the request handler. -/
def handle (c : Callbacks) (st : Stamp) (m : Message) : HandlerResult × ℕ :=
  match m.type with
  | .request =>
    match c.request with
    | some handler => (handler m, 1)
    | none => (.returned (some (Error.toFrom st m (lit "no_handler")
        (lit "agent " ++ P.repr (.str c.agentId) ++ lit " has no request handler") c.agentId)), 0)
  | .notification =>
    match c.notification.bind fun handler => handler m with
    | some e => (.raised e, 0)
    | none => (.returned none, 0)
  | _ => (.returned none, 0)

def handlerError (c : Callbacks) (st : Stamp) (m : Message) : Message :=
  Error.toFrom st m (lit "handler_error") (lit "internal handler error") c.agentId

/-- `_run_handler`: the reply it posts, if it gets to post one. -/
def runHandler (c : Callbacks) (st : Stamp) (m : Message) : Option Message × ℕ :=
  match handle P c st m with
  | (.returned reply, n) => (reply, n)
  | (.unsendable _ _, n) => (none, n)
  | (.raised _, n) => (if m.type = .request then some (handlerError c st m) else none, n)

/-- Whether `_dispatch_pull` leaves the message to the handler pool, while replies to the given
requests are waited for. -/
def toPool (waiting : List PyStr) (m : Message) : Bool :=
  match m.correlationId with
  | some c => !waiting.contains c
  | none => true

end Agent

/-! ### On the wire -/

/-- `s.encode("utf-8")` of what `json.dumps` writes, which is ASCII. -/
def asciiEncode (s : PyStr) : List UInt8 := s.map UInt8.ofNat

/-- The request that `send_request` builds. -/
def Agent.buildRequest (st : Stamp) (a recipient : PyStr) (extra body : Fields) : Message where
  type := .request
  metadata := ⟨.str a, .str recipient, st.timestamp, extra.map fun e => (.str e.1, e.2)⟩
  messageId := st.messageId
  version := protocolVersion
  body
  correlationId := none

/-- The POST that `http.client` makes of a message. -/
def messagePost (m : Message) : Request where
  method := lit "POST"
  path := defaultMessagePath
  authorization := none
  contentLength := some (intText (asciiEncode (serialize P m)).length)
  body := asciiEncode (serialize P m)

/-- An exception that escapes the handler of a request closes its connection. -/
def closedConnection : HttpAnswer :=
  .raises ⟨.osError, lit "Remote end closed connection without response"⟩

def Payload.bytes : Payload → List UInt8
  | .json fields => asciiEncode (P.jsonDumps (.obj fields))
  | .text s => asciiEncode s
  | _ => []

/-- What the broker's client meets. -/
def Outcome.httpAnswer (o : Outcome) : HttpAnswer :=
  match o.written with
  | r :: _ => .answer r.status (r.payload.bytes P)
  | [] => closedConnection

/-! ### Direct mode -/

/-- The body that `do_POST` of an agent's server reads. -/
def TransportServer.readRaw (req : Request) : Except Exc PyStr := do
  let length ← declaredLength P req
  let bytes ← rfileRead req.body length
  P.utf8Decode bytes

/-- `do_POST` of an agent's server, on the message path, and how often it calls the request
handler. -/
def TransportServer.doPOST (c : Agent.Callbacks) (st : Stamp) (req : Request) : HttpAnswer × ℕ :=
  match readRaw P req with
  | .error _ => (closedConnection, 0)
  | .ok raw =>
    match deserialize P raw with
    | .error e =>
      if e.isProtocolError then
        (.answer 400 (asciiEncode (P.jsonDumps (.obj [(lit "error", .str e.text)]))), 0)
      else (closedConnection, 0)
    | .ok m =>
      match Agent.handle P c st m with
      | (.returned none, n) => (.answer 204 [], n)
      | (.returned (some reply), n) => (.answer 200 (asciiEncode (serialize P reply)), n)
      | (_, n) => (closedConnection, n)

/-- What the caller of `send_request` gets, and how often the recipient's handler was called. -/
structure Exchange where
  result : Except Exc Message
  calls : ℕ

/-- `send_request` in direct mode; `serve i` is how the recipient's server meets attempt `i`. -/
def sendRequestDirect (registry : Registry) (policy : RetryPolicy) (timeout : PyStr)
    (serve : ℕ → HttpAnswer × ℕ) (request : Message) : Exchange where
  result :=
    match Router.route P registry policy timeout (fun i => (serve i).1) request with
    | .ok (some reply) => .ok reply
    | .ok none => .error ⟨.deliveryError,
        lit "no reply received from " ++ P.repr request.metadata.recipient⟩
    | .error e => .error e
  calls :=
    match registry.lookup P request.metadata.recipient with
    | .ok endpoint =>
      ((attemptsMade (fun i => TransportClient.send P endpoint timeout (serve i).1) policy).map
        fun i => (serve i).2).sum
    | .error _ => 0

/-! ### Pull mode -/

/-- The POST of `NetworkedBrokerTransport.send`. -/
def NetworkedBrokerTransport.sendRequest (agentToken : Option PyStr) (m : Message) : Request :=
  { messagePost P m with authorization := bearerHeader agentToken }

/-- The clients of a broker: the `agent_token` that each agent is given, and `urlencode`. -/
structure Clients where
  agentToken : PyStr → Option PyStr
  urlencode : List (PyStr × PyStr) → Except Exc PyStr

section Pull

variable (cfg : ServerConfig) (clients : Clients)

/-- The broker serves a request: what its client meets, and the broker after it. -/
def brokerServes (env : Env) (req : Request) (b : Broker) : HttpAnswer × Broker :=
  let r := handle P cfg env req b
  (r.1.httpAnswer P, r.2)

/-- An agent posts a message to the broker. -/
def brokerPost (env : Env) (a : PyStr) (m : Message) (b : Broker) : HttpAnswer × Broker :=
  brokerServes P cfg env (NetworkedBrokerTransport.sendRequest P (clients.agentToken a) m) b

/-- An agent polls its mailbox, if `http.client` can send that. -/
def brokerPoll (env : Env) (a : PyStr) (b : Broker) : HttpAnswer × Broker :=
  match NetworkedBrokerTransport.poll clients.urlencode (clients.agentToken a) a Agent.pollWait with
  | .error e => (.raises e, b)
  | .ok req => brokerServes P cfg env req b

/-- The messages that a turn of the receive-loop dispatches. -/
def polled (answer : HttpAnswer) : List Message :=
  ((Agent.recvLoop P).output .polling [⟨false, answer, fun _ => none⟩]).map Agent.Dispatch.message

/-- The handler pool runs its tasks, of which the first makes call `i` of the handler; the broker
meets them from `env k` on. -/
def runTasks (env : ℕ → Env) (callbacks : ℕ → Agent.Callbacks) (stamps : ℕ → Stamp) :
    ℕ → ℕ → List Message → Broker → ℕ × Broker
  | _, _, [], b => (0, b)
  | k, i, m :: tasks, b =>
    let (reply, n) := Agent.runHandler P (callbacks i) (stamps i) m
    let b := match reply with
      | some reply => (brokerPost P cfg clients (env k) (callbacks i).agentId reply b).2
      | none => b
    let (calls, b) := runTasks env callbacks stamps (k + 1) (i + n) tasks b
    (n + calls, b)

/-- What `_send_request_pull` comes to, by what its POST came to and the messages its agent's
receive-loop dispatched while it waited. -/
def awaitReply (timeout : PyStr) (ask : Pull.Ask) (sent : Except Exc (Option Message))
    (inbound : List Message) : Except Exc Message :=
  match sent with
  | .error e => .error e
  | .ok _ =>
    match inbound.find? fun m => m.correlationId = some ask.key with
    | some reply => .ok reply
    | none => .error (Pull.noReply P timeout ask)

/-- `send_request` in pull mode: agent `a` posts, agent `r` polls and runs what it gets, and `a`
polls. The broker meets request number `k` in `env k`; `waiting` are the ids that the recipient
itself waits for. -/
def sendRequestPull (env : ℕ → Env) (timeout : PyStr) (callbacks : ℕ → Agent.Callbacks)
    (stamps : ℕ → Stamp) (waiting : List PyStr) (a r : PyStr) (ask : Pull.Ask) (b : Broker) :
    Exchange :=
  let (answer, b) := brokerPost P cfg clients (env 0) a ask.request b
  let (delivery, b) := brokerPoll P cfg clients (env 1) r b
  let tasks := (polled P delivery).filter (Agent.toPool waiting)
  let (calls, b) := runTasks P cfg clients env callbacks stamps 2 1 tasks b
  let inbound := polled P (brokerPoll P cfg clients (env (2 + tasks.length)) a b).1
  ⟨awaitReply P timeout ask (NetworkedBrokerTransport.send P ask.request timeout answer) inbound,
    calls⟩

end Pull

end AgentComm
