import AgentComm.Python

/-!
# Messages

The envelope and its four kinds. A message's class fixes its `type`, so the kind is the class.
The sender and the recipient hold whatever JSON value the envelope had there: a reply takes
both from the message it answers.
-/

namespace AgentComm

def protocolVersion : PyStr := lit "1.0"

inductive MessageType
  | request
  | response
  | error
  | notification
deriving DecidableEq

namespace MessageType

def value : MessageType → PyStr
  | request => lit "request"
  | response => lit "response"
  | error => lit "error"
  | notification => lit "notification"

/-- `MessageType(x)`, none where it raises `ValueError`. -/
def ofValue : Json → Option MessageType
  | .str s =>
    if s = lit "request" then some request
    else if s = lit "response" then some response
    else if s = lit "error" then some error
    else if s = lit "notification" then some notification
    else none
  | _ => none

@[simp] theorem ofValue_value (t : MessageType) : ofValue (.str t.value) = some t := by
  cases t <;> decide

end MessageType

structure Metadata where
  sender : Json
  recipient : Json
  timestamp : PyStr
  extra : List (Key × Json)

structure Message where
  type : MessageType
  metadata : Metadata
  messageId : PyStr
  version : PyStr
  body : Fields
  correlationId : Option PyStr

/-- `datetime.now(UTC).isoformat()` and `new_message_id()` as one construction sees them. -/
structure Stamp where
  timestamp : PyStr
  messageId : PyStr

/-- `_build_reply_metadata` with no extra fields. -/
def buildReplyMetadata (st : Stamp) (request : Message) (sender : Option Json) : Metadata :=
  let replySender := match sender with
    | some s => s
    | none => match request.metadata.recipient with
      | .null => request.metadata.sender
      | r => r
  { sender := replySender, recipient := request.metadata.sender, timestamp := st.timestamp,
    extra := [] }

/-- A response: its body is a `dict` of any keys and values. -/
structure ResponseMessage (κ υ : Type) where
  metadata : Metadata
  messageId : PyStr
  body : List (κ × υ)
  correlationId : PyStr

/-- The message it is, when its body is a JSON object. -/
def ResponseMessage.toMessage (r : ResponseMessage PyStr Json) : Message :=
  { type := .response, metadata := r.metadata, messageId := r.messageId,
    version := protocolVersion, body := r.body, correlationId := some r.correlationId }

/-- `Response.to(request, body=body, sender=sender)` -/
def Response.to {κ υ : Type} (st : Stamp) (request : Message) (body : Option (List (κ × υ)))
    (sender : Option Json := none) : ResponseMessage κ υ :=
  { metadata := buildReplyMetadata st request sender, messageId := st.messageId,
    body := body.getD [], correlationId := request.messageId }

def errorBody (code message : PyStr) : Fields :=
  [(lit "code", .str code), (lit "message", .str message)]

/-- `Error.to(request, code=code, message=message)` -/
def Error.to (st : Stamp) (request : Message) (code message : PyStr) : Message :=
  { type := .error, metadata := buildReplyMetadata st request none, messageId := st.messageId,
    version := protocolVersion, body := errorBody code message,
    correlationId := some request.messageId }

end AgentComm
