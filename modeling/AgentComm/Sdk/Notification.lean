import AgentComm.Broker.Handler
import AgentComm.Sdk.Exchange
import AgentComm.Transport.Requests
import AgentComm.Transport.Routing

/-!
# A notification and the faults on its way

`send_notification` of an agent at a broker. Each attempt meets the broker as all others have left
it, and the network may lose the request, or only the answer.
-/

namespace AgentComm

variable (P : Python) (cfg : ServerConfig)

/-- The notification that `send_notification` builds. -/
def Agent.buildNotification (st : Stamp) (a recipient : PyStr) (extra body : Fields) : Message where
  type := .notification
  metadata := ⟨.str a, .str recipient, st.timestamp, extra.map fun e => (.str e.1, e.2)⟩
  messageId := st.messageId
  version := protocolVersion
  body
  correlationId := none

/-- What the network does to an attempt: the request is lost, or the broker serves it and the answer
is lost, and the client sees an exception; or the client gets the answer. -/
inductive Fate
  | lost (e : Exc)
  | unanswered (e : Exc)
  | answered

namespace Fate

def reaches : Fate → Bool
  | lost _ => false
  | _ => true

def isUnanswered : Fate → Bool
  | unanswered _ => true
  | _ => false

def isAnswered : Fate → Bool
  | answered => true
  | _ => false

def exception? : Fate → Option Exc
  | lost e | unanswered e => some e
  | answered => none

end Fate

/-- An attempt: the broker it meets, and how. -/
structure Attempt where
  env : Env
  broker : Broker
  fate : Fate

/-- What the client meets at an attempt to send `m`, and the broker after it. -/
def Attempt.post (agentToken : Option PyStr) (m : Message) (x : Attempt) : HttpAnswer × Broker :=
  let r := handle P cfg x.env (NetworkedBrokerTransport.sendRequest P agentToken m) x.broker
  match x.fate with
  | .lost e => (.raises e, x.broker)
  | .unanswered e => (.raises e, r.2)
  | .answered => (r.1.httpAnswer P, r.2)

/-- `send_notification`; the broker answers the lookup with `listing`. -/
def Agent.sendNotification (brokerPort : ℤ) (policy : RetryPolicy) (timeout : PyStr)
    (agentToken : Option PyStr) (listing : HttpAnswer) (attempt : ℕ → Attempt) (m : Message) :
    Router.Routed :=
  Router.routeBrokered P brokerPort policy timeout listing
    (fun i => ((attempt i).post P cfg agentToken m).1) m

end AgentComm
