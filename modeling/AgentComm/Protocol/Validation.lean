import AgentComm.Protocol.Messages

/-!
# Validation

`validate` checks an envelope, stopping at the first problem. It takes the dictionary form or a
message, whose fields it first gathers into one.
-/

namespace AgentComm

variable (P : Python)

def requiredEnvelopeFields : List PyStr :=
  [lit "message_id", lit "type", lit "protocol_version", lit "metadata", lit "body"]

def validationError (text : PyStr) : Exc := ⟨.validationError, text⟩

/-- `_major`: the integer before the first dot. -/
def major (version : PyStr) : Except Exc ℤ :=
  match P.int (splitOnce 46 version).1 with
  | .ok n => .ok n
  | .error e =>
    if e.isValueError then
      .error (validationError (lit "invalid protocol_version: " ++ P.repr (.str version)))
    else .error e

def nonEmptyStr (text : PyStr) : Json → Except Exc PyStr
  | .str (c :: s) => .ok (c :: s)
  | _ => .error (validationError text)

def checkType (v : Json) : Except Exc MessageType :=
  match MessageType.ofValue v with
  | some t => .ok t
  | none => .error (validationError (lit "unknown message type: " ++ P.repr v))

def checkVersion : Json → Except Exc PyStr
  | .str version => do
    let found ← major P version
    let expected ← major P protocolVersion
    if found ≠ expected then
      throw ⟨.unsupportedVersionError, lit "unsupported protocol major version: "
        ++ P.repr (.str version) ++ lit " (expected major " ++ protocolVersion ++ lit ")"⟩
    return version
  | _ => .error (validationError (lit "protocol_version must be a string"))

def mapping (text : PyStr) : Json → Except Exc Fields
  | .obj kvs => .ok kvs
  | _ => .error (validationError text)

def checkCorrelation (t : MessageType) : Json → Except Exc (Option PyStr)
  | .null =>
    if t = .response then .error (validationError (lit "RESPONSE requires a correlation_id"))
    else .ok none
  | .str c =>
    if t = .request then
      .error (validationError (lit "REQUEST must not carry a correlation_id"))
    else if t = .notification then
      .error (validationError (lit "NOTIFICATION must not carry a correlation_id"))
    else .ok (some c)
  | _ => .error (validationError (lit "correlation_id must be a string or None"))

/-- The checks `validate` makes of the gathered fields, in its order. -/
def validateFields (data : Fields) : Except Exc Unit := do
  let _ ← nonEmptyStr (lit "message_id must be a non-empty string") (data.get (lit "message_id"))
  let t ← checkType P (data.get (lit "type"))
  let _ ← checkVersion P (data.get (lit "protocol_version"))
  let metadata ← mapping (lit "metadata must be a mapping") (data.get (lit "metadata"))
  let _ ← nonEmptyStr (lit "metadata.sender must be a non-empty string")
    (metadata.get (lit "sender"))
  let _ ← nonEmptyStr (lit "metadata.timestamp must be a non-empty string")
    (metadata.get (lit "timestamp"))
  let _ ← mapping (lit "body must be a mapping") (data.get (lit "body"))
  let _ ← checkCorrelation t (data.get (lit "correlation_id"))
  return ()

/-- `validate` of a dictionary. -/
def validateDict (data : Fields) : Except Exc Unit :=
  let missing := requiredEnvelopeFields.filter fun f => !data.has f
  if missing ≠ [] then
    .error (validationError
      (lit "missing envelope fields: " ++ P.repr (.arr (missing.map .str))))
  else validateFields P data

def optStr : Option PyStr → Json
  | none => .null
  | some s => .str s

/-- The dictionary `validate` gathers from a message. -/
def gatherFields (m : Message) : Fields :=
  [(lit "message_id", .str m.messageId), (lit "type", .str m.type.value),
    (lit "protocol_version", .str m.version),
    (lit "metadata", .obj
      [(lit "sender", m.metadata.sender), (lit "recipient", m.metadata.recipient),
        (lit "timestamp", .str m.metadata.timestamp),
        (lit "extra", .obj (m.metadata.extra.map fun e => (e.1.text P, e.2)))]),
    (lit "body", .obj m.body), (lit "correlation_id", optStr m.correlationId)]

/-- `validate` of a message. -/
def validate (m : Message) : Except Exc Unit := validateFields P (gatherFields P m)

end AgentComm
