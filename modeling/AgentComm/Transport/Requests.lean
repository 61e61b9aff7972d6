import AgentComm.Broker.State

/-!
# The requests of a broker's client

What `BrokeredRegistry` and `NetworkedBrokerTransport` have `http.client` send. An id goes into a
path as it is and into a query quoted.
-/

namespace AgentComm

/-- The request target `http.client` puts on the wire: the one it is given, or an exception for
one with a blank, a control character or a character that is not ASCII. -/
def putrequest (url : PyStr) : Except Exc PyStr :=
  if url.any fun c => c ≤ 32 || c = 127 then
    .error ⟨.httpException, lit "URL can't contain control characters."⟩
  else if url.any fun c => 127 < c then
    .error ⟨.unicodeEncodeError, lit "'ascii' codec can't encode characters"⟩
  else .ok url

/-- What `_auth_headers` adds. -/
def bearerHeader (agentToken : Option PyStr) : Option PyStr :=
  agentToken.map fun token => lit "Bearer " ++ token

/-- `BrokeredRegistry.unregister` -/
def BrokeredRegistry.unregister (agentToken : Option PyStr) (agentId : PyStr) :
    Except Exc Request :=
  (putrequest (lit "/agents/" ++ agentId)).map fun path =>
    ⟨lit "DELETE", path, bearerHeader agentToken, none, []⟩

/-- `NetworkedBrokerTransport.receive`, up to the answer. -/
def NetworkedBrokerTransport.poll (urlencode : List (PyStr × PyStr) → Except Exc PyStr)
    (agentToken : Option PyStr) (agentId wait : PyStr) : Except Exc Request := do
  let query ← urlencode [(lit "agent_id", agentId), (lit "wait", wait)]
  let path ← putrequest (defaultMessagePath ++ lit "?" ++ query)
  return ⟨lit "GET", path, bearerHeader agentToken, none, []⟩

end AgentComm
