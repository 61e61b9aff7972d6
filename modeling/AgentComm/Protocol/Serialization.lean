import AgentComm.Protocol.Validation

/-!
# Serialization

`serialize` writes a message as JSON text; `deserialize` parses, validates and rebuilds one.
-/

namespace AgentComm

variable (P : Python)

/-- `to_dict`, with the keys of `extra` as `json.dumps` will write them. -/
def toDict (m : Message) : Fields :=
  [(lit "message_id", .str m.messageId), (lit "type", .str m.type.value),
    (lit "protocol_version", .str m.version),
    (lit "metadata", .obj
      [(lit "sender", m.metadata.sender), (lit "recipient", m.metadata.recipient),
        (lit "timestamp", .str m.metadata.timestamp),
        (lit "extra", .obj (m.metadata.extra.map fun e => (e.1.text P, e.2)))]),
    (lit "body", .obj m.body), (lit "correlation_id", optStr m.correlationId)]

def strOr (d : PyStr) : Json → PyStr
  | .str s => s
  | _ => d

def fieldsOr : Json → Fields
  | .obj kvs => kvs
  | _ => []

/-- The message `from_dict` builds from validated data: the class drops `correlation_id` where
its constructor does not take one, and a `Response` insists on it. -/
def buildMessage (data : Fields) (t : MessageType) (extra : List (Key × Json)) :
    Except Exc Message :=
  let rawMetadata := fieldsOr (data.get (lit "metadata"))
  let m : Message :=
    { type := t
      metadata :=
        { sender := rawMetadata.get (lit "sender")
          recipient := rawMetadata.get (lit "recipient")
          timestamp := strOr [] (rawMetadata.get (lit "timestamp"))
          extra }
      messageId := strOr [] (data.get (lit "message_id"))
      version := strOr [] (data.get (lit "protocol_version"))
      body := fieldsOr (data.get (lit "body"))
      correlationId :=
        if t = .response ∨ t = .error then (data.get (lit "correlation_id")).asStr? else none }
  if t = .response ∧ m.correlationId = none then
    .error ⟨.valueError, lit "Response requires a correlation_id"⟩
  else .ok m

def fromDict (data : Fields) : Except Exc Message := do
  validateDict P data
  let t ← checkType P (data.get (lit "type"))
  let rawMetadata := fieldsOr (data.get (lit "metadata"))
  let extra ← match Lib.Pairs.get? (lit "extra") rawMetadata with
    | none => .ok []
    | some v => pyDict v
  buildMessage data t extra

def serialize (m : Message) : PyStr := P.jsonDumps (.obj (toDict P m))

def deserialize (raw : PyStr) : Except Exc Message :=
  match P.jsonLoads raw with
  | .error e =>
    if e.kind = .jsonDecodeError ∨ e.kind = .typeError then
      .error (validationError (lit "invalid JSON payload: " ++ e.text))
    else .error e
  | .ok (.obj data) => fromDict P data
  | .ok _ => .error (validationError (lit "serialized message must be a JSON object"))

end AgentComm
