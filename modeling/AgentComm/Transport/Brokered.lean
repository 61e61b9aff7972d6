import AgentComm.Transport.Delivery

/-!
# The transport through a broker

What `NetworkedBrokerTransport` makes of the broker's answers to a POST and to a poll.
-/

namespace AgentComm

open Lib

variable (P : Python)

def unknownRecipientCode : PyStr := lit "unknown_recipient"

def deliveryFailedCode : PyStr := lit "delivery_failed"

/-- `type(v).__name__` -/
def Json.typeName : Json → PyStr
  | .null => lit "NoneType"
  | .bool _ => lit "bool"
  | .int _ => lit "int"
  | .float _ => lit "float"
  | .str _ => lit "str"
  | .arr _ => lit "list"
  | .obj _ => lit "dict"

/-- `deserialize` of any JSON value: `json.loads` raises a `TypeError` on what is no text. -/
def deserializeValue : Json → Except Exc Message
  | .str raw => deserialize P raw
  | v => .error (validationError (lit "invalid JSON payload: the JSON object must be str, "
      ++ lit "bytes or bytearray, not " ++ v.typeName))

/-- What a `for` goes through. -/
def pyIter : Json → Except Exc (List Json)
  | .arr xs => .ok xs
  | .str s => .ok (s.map fun c => .str [c])
  | .obj kvs => .ok (kvs.map fun e => .str e.1)
  | v => .error ⟨.typeError, lit "'" ++ v.typeName ++ lit "' object is not iterable"⟩

namespace NetworkedBrokerTransport

/-- What `send` makes of an error status: some failures have an envelope of their own. -/
def errorReply (m : Message) (status : ℕ) (data : PyStr) : Exc :=
  let unexpected : Exc := ⟨.transportError,
    lit "broker returned HTTP " ++ intText status ++ lit ": " ++ data⟩
  match deserialize P data with
  | .error e => if e.isProtocolError ∨ e.kind = .jsonDecodeError then e else unexpected
  | .ok envelope =>
    let code := (Pairs.get? (lit "code") envelope.body).getD (.str [])
    if code.asStr? = some unknownRecipientCode then
      ⟨.agentNotFoundError, lit "unknown recipient: " ++ pyText P m.metadata.recipient⟩
    else if code.asStr? = some deliveryFailedCode then
      ⟨.deliveryError, pyText P ((Pairs.get? (lit "message") envelope.body).getD
        (.str (lit "delivery failed")))⟩
    else unexpected

def reply (m : Message) (status : ℕ) (data : PyStr) : Except Exc (Option Message) :=
  if status = 200 then
    match deserialize P data with
    | .ok r => .ok (some r)
    | .error e =>
      if e.isProtocolError then
        .error ⟨.transportError, lit "invalid response from broker: " ++ e.text⟩
      else .error e
  else if status = 202 ∨ status = 204 ∨ data = [] then .ok none
  else .error (errorReply P m status data)

def send (m : Message) (timeout : PyStr) (a : HttpAnswer) : Except Exc (Option Message) := do
  let (status, data) ← doPost P timeout (lit "broker") a
  reply P m status data

/-- The loop of `receive`: the first message that cannot be decoded ends it. -/
def deserializeAll : List Json → Except Exc (List Message)
  | [] => .ok []
  | raw :: rest =>
    match deserializeValue P raw with
    | .ok m => (deserializeAll rest).map (m :: ·)
    | .error e =>
      if e.isProtocolError then
        .error ⟨.transportError, lit "invalid message from broker: " ++ e.text⟩
      else .error e

/-- `json.loads(data) if data else {}` -/
def parsePoll (data : PyStr) : Except Exc Json :=
  if data = [] then .ok (.obj []) else P.jsonLoads data

/-- The messages in the body of a poll's answer. -/
def pollMessages (data : PyStr) : Except Exc (List Message) :=
  match parsePoll P data with
  | .error e =>
    if e.kind = .jsonDecodeError then
      .error ⟨.transportError, lit "invalid poll response from broker: " ++ e.text⟩
    else .error e
  | .ok (.obj parsed) => do
    let raws ← pyIter ((Pairs.get? (lit "messages") parsed).getD (.arr []))
    deserializeAll P raws
  | .ok _ => .ok []

def receive (timeout : PyStr) : HttpAnswer → Except Exc (List Message)
  | .raises e =>
    if e.kind = .timeoutError then
      .error ⟨.transportTimeoutError, lit "poll to broker timed out after " ++ timeout ++ lit "s"⟩
    else if e.isOSError then
      .error ⟨.transportError, lit "failed to reach broker: " ++ e.text⟩
    else .error e
  | .answer status body => do
    let data ← P.utf8Decode body
    if status = 200 then pollMessages P data
    else .error ⟨.transportError,
      lit "broker GET /messages returned HTTP " ++ intText status ++ lit ": " ++ data⟩

end NetworkedBrokerTransport

end AgentComm
