import AgentComm.Sdk.Exchange
import AgentComm.Transport.Requests
import AgentComm.Transport.Routing

/-!
# The broker's client as a registry

`BrokeredRegistry` asks the broker what `Registry` keeps itself. What `http.client` is given to send
is a `Request`, and what it gets an `HttpAnswer`.
-/

namespace AgentComm

open Lib

variable (P : Python)

/-- `AgentInfo` -/
structure AgentInfo where
  agentId : PyStr
  capabilities : Fields

/-- `supported_kinds`: what is no list counts as none. -/
def AgentInfo.supportedKinds (i : AgentInfo) : List Json :=
  match Pairs.get? (lit "supported_kinds") i.capabilities with
  | some (.arr raw) => raw
  | _ => []

namespace BrokeredRegistry

/-- The body of `register`. -/
def registerBody (endpoint : Endpoint) (capabilities : Option Fields) : Fields :=
  [(lit "agent_id", .str endpoint.agentId), (lit "host", .str endpoint.host),
    (lit "port", .int endpoint.port), (lit "scheme", .str endpoint.scheme),
    (lit "path", .str endpoint.path), (lit "capabilities", .obj (capabilities.getD [])),
    (lit "mailbox", .bool endpoint.mailbox)]

/-- The request of `register`. -/
def registerRequest (agentToken : Option PyStr) (endpoint : Endpoint)
    (capabilities : Option Fields) : Request where
  method := lit "POST"
  path := lit "/agents"
  authorization := bearerHeader agentToken
  contentLength := some (intText
    (asciiEncode (P.jsonDumps (.obj (registerBody endpoint capabilities)))).length)
  body := asciiEncode (P.jsonDumps (.obj (registerBody endpoint capabilities)))

/-- `register`: whatever the broker answers, as long as it can be read, is taken for success. -/
def register (a : HttpAnswer) : Except Exc Unit := do
  let _ ← request P a
  return ()

/-- The `GET /agents` of `lookup`, `list_agents` and `discover_agents`. -/
def agentsRequest (agentToken : Option PyStr) : Request :=
  ⟨lit "GET", lit "/agents", bearerHeader agentToken, none, []⟩

/-- An entry that is an object. -/
def objectEntry : Json → Option Fields
  | .obj entry => some entry
  | _ => none

/-- The entries that `list_agents` and `discover_agents` go through: those that are objects. -/
def agentEntries (a : HttpAnswer) : Except Exc (List Fields) := do
  let (status, parsed) ← request P a
  if status ≠ 200 then
    throw ⟨.transportError, lit "broker GET /agents returned HTTP " ++ intText status ++ lit ": "
      ++ pyText P parsed⟩
  else
    let agents ← pyIter (listed parsed)
    return agents.filterMap objectEntry

/-- `str(entry.get("agent_id", ""))` -/
def entryId (entry : Fields) : PyStr :=
  pyText P ((Pairs.get? (lit "agent_id") entry).getD (.str []))

/-- `list_agents` -/
def listAgents (brokerPort : ℤ) (a : HttpAnswer) : Except Exc (List Endpoint) := do
  let agents ← agentEntries P a
  return agents.map fun entry =>
    { agentId := entryId P entry, host := lit "broker", port := brokerPort }

/-- `discover_agents` -/
def discoverAgents (a : HttpAnswer) : Except Exc (List AgentInfo) := do
  let agents ← agentEntries P a
  return agents.map fun entry => ⟨entryId P entry, fieldsOr (entry.get (lit "capabilities"))⟩

end BrokeredRegistry

end AgentComm
