import AgentComm.Sdk.Responder
import AgentComm.Transport.Discovery

/-!
# One-shot requests

A `BrokeredRequester` registers a mailbox, sends one request from it and removes it; its caller gets
the text of the reply. The agent that answers may be a responder.
-/

namespace AgentComm

open Lib

variable (P : Python)

/-- `reply_text` -/
def replyText (body : Json) (default : PyStr) : PyStr :=
  match body with
  | .obj fields =>
    match Fields.get fields (lit "reply") with
    | .null => default
    | .str [] => default
    | reply => pyText P reply
  | _ => default

/-- What an agent in pull mode registers. -/
def Agent.mailbox (a : PyStr) : Endpoint :=
  { agentId := a, host := lit "mailbox", port := 0, mailbox := true }

/-- What `unregister` raises past the guard of `stop`. -/
def Agent.stopRaises : Except Exc (ℕ × Json) → Option Exc
  | .ok _ => none
  | .error e => if e.kind = .agentNotFoundError then none else some e

section Broker

variable (cfg : ServerConfig) (clients : Clients) (env : Env) (a : PyStr) (b : Broker)

/-- An agent registers its mailbox. -/
def brokerRegister : HttpAnswer × Broker :=
  brokerServes P cfg env
    (BrokeredRegistry.registerRequest P (clients.agentToken a) (Agent.mailbox a) none) b

/-- An agent takes itself out, if `http.client` can send that. -/
def brokerUnregister : HttpAnswer × Broker :=
  match BrokeredRegistry.unregister (clients.agentToken a) a with
  | .error e => (.raises e, b)
  | .ok req => brokerServes P cfg env req b

end Broker

/-- The broker after `sendRequestPull`. -/
def brokerAfterPull (cfg : ServerConfig) (clients : Clients) (env : ℕ → Env)
    (callbacks : ℕ → Agent.Callbacks) (stamps : ℕ → Stamp) (waiting : List PyStr) (a r : PyStr)
    (ask : Pull.Ask) (b : Broker) : Broker :=
  let b := (brokerPost P cfg clients (env 0) a ask.request b).2
  let (delivery, b) := brokerPoll P cfg clients (env 1) r b
  let tasks := (polled P delivery).filter (Agent.toPool waiting)
  let b := (runTasks P cfg clients env callbacks stamps 2 1 tasks b).2
  (brokerPoll P cfg clients (env (2 + tasks.length)) a b).2

/-- How a call of `request` ends: with a text, with the `RuntimeError` it raises on an error, or
with what the agent raises. -/
inductive RequestEnd
  | returned (text : PyStr)
  | failed (text : PyStr)
  | raised (e : Exc)

/-- A call of `request`, with how often the recipient's handler was called, and the broker after
it. -/
structure RequestRun where
  result : RequestEnd
  calls : ℕ
  broker : Broker

structure BrokeredRequester where
  agentId : PyStr
  targetAgentId : PyStr
  timeout : PyStr
  defaultReply : PyStr

namespace BrokeredRequester

variable (q : BrokeredRequester)

/-- The text of the `RuntimeError`. -/
def failure (message : Json) : PyStr :=
  lit "brokered request to " ++ P.repr (.str q.targetAgentId) ++ lit " failed: "
    ++ pyText P message

/-- What `request` makes of the reply. -/
def unwrap (default : PyStr) (reply : Message) : RequestEnd :=
  if reply.type = .error then .failed (q.failure P (Fields.get reply.body (lit "message")))
  else .returned (replyText P (.obj reply.body) default)

/-- What a call meets: the broker at the registration, in the exchange and at the end, and what the
recipient has. -/
structure Meeting where
  entering : Env
  exchange : ℕ → Env
  leaving : Env
  callbacks : ℕ → Agent.Callbacks
  stamps : ℕ → Stamp
  waiting : List PyStr

/-- What is sent. -/
def ask (st : Stamp) (payload : Option Fields) (timeout : Option PyStr) : Pull.Ask :=
  ⟨Agent.buildRequest st q.agentId q.targetAgentId [] (payload.getD []),
    some (timeout.getD q.timeout)⟩

/-- `request`: an exception of the agent's `start` ends it, and one of its `stop` stands in for what
the request came to. -/
def request (cfg : ServerConfig) (clients : Clients) (x : Meeting) (st : Stamp)
    (payload : Option Fields) (timeout default : Option PyStr) (b : Broker) : RequestRun :=
  let (entered, b) := brokerRegister P cfg clients x.entering q.agentId b
  match BrokeredRegistry.register P entered with
  | .error e => ⟨.raised e, 0, b⟩
  | .ok () =>
    let ask := q.ask st payload timeout
    let exchange := sendRequestPull P cfg clients x.exchange (timeout.getD q.timeout) x.callbacks
      x.stamps x.waiting q.agentId q.targetAgentId ask b
    let b := brokerAfterPull P cfg clients x.exchange x.callbacks x.stamps x.waiting q.agentId
      q.targetAgentId ask b
    let (left, b) := brokerUnregister P cfg clients x.leaving q.agentId b
    match Agent.stopRaises (BrokeredRegistry.request P left), exchange.result with
    | some e, _ => ⟨.raised e, exchange.calls, b⟩
    | none, .error e => ⟨.raised e, exchange.calls, b⟩
    | none, .ok reply => ⟨q.unwrap P (default.getD q.defaultReply) reply, exchange.calls, b⟩

end BrokeredRequester

namespace BrokeredResponder

variable {η κ υ : Type} (R : BrokeredResponder η)

/-- `_dispatch` as the request handler of the responder's agent; `asJson` is what `json.dumps` makes
of a body, or raises on it. -/
def onRequest (asJson : List (κ × υ) → Except Exc Fields) (st : Stamp)
    (run : η → Inbound → Fields → HandlerEnd κ υ Exc) (m : Message) : HandlerResult :=
  match (R.dispatch P st run ⟨m, .obj m.body⟩).1 with
  | .error e => .raised e
  | .ok (.error reply) => .returned (some reply)
  | .ok (.response r) =>
    match asJson r.body with
    | .error e => .unsendable (some r.correlationId) e
    | .ok body => .returned (some (ResponseMessage.toMessage { r with body }))

end BrokeredResponder

end AgentComm
