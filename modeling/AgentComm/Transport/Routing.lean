import AgentComm.Transport.Brokered

/-!
# Routing through a broker

The router over a `BrokeredRegistry` and a `NetworkedBrokerTransport`: one request for the list of
agents, then a POST at each attempt.
-/

namespace AgentComm

open Lib

variable (P : Python)

mutual

/-- `==` on what `json.loads` returns: dictionaries compare key by key, in any order. -/
def Json.same : Json → Json → Bool
  | .arr xs, .arr ys => sameItems xs ys
  | .obj kvs, .obj kvs' => kvs.length = kvs'.length && samePairs kvs kvs'
  | v, w =>
    match v.toKey, w.toKey with
    | .ok k, .ok k' => k.same k'
    | _, _ => false

def sameItems : List Json → List Json → Bool
  | [], [] => true
  | x :: xs, y :: ys => x.same y && sameItems xs ys
  | _, _ => false

def samePairs : List (PyStr × Json) → Fields → Bool
  | [], _ => true
  | (k, v) :: rest, kvs =>
    (match Pairs.get? k kvs with
    | some w => v.same w
    | none => false) && samePairs rest kvs

end

namespace BrokeredRegistry

/-- `_request`: the status and the body, as JSON or as the text it is. -/
def request : HttpAnswer → Except Exc (ℕ × Json)
  | .raises e => .error e
  | .answer status body => do
    let data ← P.utf8Decode body
    if data = [] then return (status, .null)
    else match P.jsonLoads data with
      | .ok v => return (status, v)
      | .error e => if e.kind = .jsonDecodeError then return (status, .str data) else throw e

/-- The endpoint `lookup` makes up: it has the id asked for and no address of its own. -/
structure Placeholder where
  agentId : Json
  host : PyStr
  port : ℤ

/-- An entry of the list that has the id. -/
def entryFor (agentId : Json) : Json → Bool
  | .obj entry => (Fields.get entry (lit "agent_id")).same agentId
  | _ => false

/-- What `lookup` goes through. -/
def listed : Json → Json
  | .obj parsed => (Pairs.get? (lit "agents") parsed).getD (.arr [])
  | _ => .arr []

def lookup (brokerPort : ℤ) (answer : HttpAnswer) (agentId : Json) : Except Exc Placeholder := do
  let (status, parsed) ← request P answer
  if status ≠ 200 then
    throw ⟨.transportError, lit "broker GET /agents returned HTTP " ++ intText status ++ lit ": "
      ++ pyText P parsed⟩
  else
    let agents ← pyIter (listed parsed)
    if agents.any (entryFor agentId) then return ⟨agentId, lit "broker", brokerPort⟩
    else throw (Registry.unknownAgent P agentId)

end BrokeredRegistry

namespace Router

/-- What a call of `route` comes to, and the attempts at which it calls the transport. -/
structure Routed where
  result : Except Exc (Option Message)
  attempts : List ℕ

/-- `Router.route` over a broker, which answers the lookup with `listing` and the POST of attempt
`i` with `network i`. -/
def routeBrokered (brokerPort : ℤ) (policy : RetryPolicy) (timeout : PyStr) (listing : HttpAnswer)
    (network : ℕ → HttpAnswer) (m : Message) : Routed :=
  if !m.metadata.recipient.truthy then
    ⟨.error ⟨.agentNotFoundError, lit "message has no recipient"⟩, []⟩
  else match BrokeredRegistry.lookup P brokerPort listing m.metadata.recipient with
    | .error e => ⟨.error e, []⟩
    | .ok _ =>
      let send := fun i => NetworkedBrokerTransport.send P m timeout (network i)
      ⟨(retryCall send policy).mapError Prod.fst, attemptsMade send policy⟩

end Router

end AgentComm
