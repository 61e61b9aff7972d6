import AgentComm.Protocol.Serialization
import AgentComm.Transport.Registry

/-!
# Delivery

One POST to an endpoint, its bounded retry, and the router over both. What the network does at
each attempt is an input.
-/

namespace AgentComm

variable (P : Python)

/-- What one HTTP exchange comes to: an answer, or an exception of the client library. -/
inductive HttpAnswer
  | answer (status : ℕ) (body : List UInt8)
  | raises (e : Exc)

def doPost (timeout label : PyStr) : HttpAnswer → Except Exc (ℕ × PyStr)
  | .answer status body => (P.utf8Decode body).map (status, ·)
  | .raises e =>
    if e.kind = .timeoutError then
      .error ⟨.transportTimeoutError, label ++ lit " timed out after " ++ timeout ++ lit "s"⟩
    else if e.isOSError then
      .error ⟨.transportError, lit "failed to reach " ++ label ++ lit ": " ++ e.text⟩
    else .error e

namespace TransportClient

/-- What `send` makes of a status and a body: a reply, or none. -/
def reply (url : PyStr) (status : ℕ) (data : PyStr) : Except Exc (Option Message) :=
  if 400 ≤ status then
    .error ⟨.transportError,
      url ++ lit " returned HTTP " ++ intText status ++ lit ": " ++ data⟩
  else if status = 204 ∨ data = [] then .ok none
  else match deserialize P data with
    | .ok m => .ok (some m)
    | .error e =>
      if e.isProtocolError then
        .error ⟨.transportError, lit "invalid response from " ++ url ++ lit ": " ++ e.text⟩
      else .error e

def send (endpoint : Endpoint) (timeout : PyStr) (a : HttpAnswer) :
    Except Exc (Option Message) := do
  let (status, data) ← doPost P timeout endpoint.url a
  reply P endpoint.url status data

end TransportClient

structure RetryPolicy where
  maxAttempts : ℤ
  baseDelay : ℚ
  maxDelay : ℚ
  backoffFactor : ℚ

def RetryPolicy.delayFor (p : RetryPolicy) (attempt : ℕ) : ℚ :=
  min (p.baseDelay * p.backoffFactor ^ (attempt - 1)) p.maxDelay

/-- What `retry_call` does: a call of `func`, or a sleep. -/
inductive RetryAct
  | call (attempt : ℕ)
  | sleep (seconds : ℚ)
deriving DecidableEq

def RetryAct.call? : RetryAct → Option ℕ
  | call i => some i
  | sleep _ => none

def RetryAct.sleep? : RetryAct → Option ℚ
  | call _ => none
  | sleep d => some d

/-- The `DeliveryError` that `retry_call` ends in. -/
def RetryPolicy.gaveUp (p : RetryPolicy) : Exc :=
  ⟨.deliveryError, lit "delivery failed after " ++ intText p.maxAttempts ++ lit " attempt(s)"⟩

/-- The loop of `retry_call` from `attempt` on, with `left` more allowed: the result and what was
done. `last` is the transport error of the call before. -/
def retryActsFrom {α : Type} (func : ℕ → Except Exc α) (p : RetryPolicy) :
    ℕ → ℕ → Option Exc → Except (Exc × Option Exc) α × List RetryAct
  | 0, _, last => (.error (p.gaveUp, last), [])
  | left + 1, attempt, _ =>
    match func attempt with
    | .ok v => (.ok v, [.call attempt])
    | .error e =>
      if e.isTransportError then
        if p.maxAttempts ≤ attempt then (.error (p.gaveUp, some e), [.call attempt])
        else
          let r := retryActsFrom func p left (attempt + 1) (some e)
          (r.1, .call attempt :: .sleep (p.delayFor attempt) :: r.2)
      else (.error (e, none), [.call attempt])

/-- `retry_call`: the result, the exception with its cause, and what was done. -/
def retryActs {α : Type} (func : ℕ → Except Exc α) (p : RetryPolicy) :
    Except (Exc × Option Exc) α × List RetryAct :=
  retryActsFrom func p p.maxAttempts.toNat 1 none

/-- What a caller of `retry_call` gets. -/
def retryCall {α : Type} (func : ℕ → Except Exc α) (p : RetryPolicy) :
    Except (Exc × Option Exc) α :=
  (retryActs func p).1

/-- The attempts that `retry_call` makes. -/
def attemptsMade {α : Type} (func : ℕ → Except Exc α) (p : RetryPolicy) : List ℕ :=
  (retryActs func p).2.filterMap RetryAct.call?

namespace Router

/-- `Router.route` over the in-memory registry; attempt `i` meets `network i`. -/
def route (registry : Registry) (policy : RetryPolicy) (timeout : PyStr)
    (network : ℕ → HttpAnswer) (m : Message) : Except Exc (Option Message) :=
  if !m.metadata.recipient.truthy then
    .error ⟨.agentNotFoundError, lit "message has no recipient"⟩
  else match registry.lookup P m.metadata.recipient with
    | .error e => .error e
    | .ok endpoint =>
      match retryCall (fun i => TransportClient.send P endpoint timeout (network i)) policy with
      | .ok reply => .ok reply
      | .error (e, _) => .error e

end Router

end AgentComm
