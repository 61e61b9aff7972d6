import AgentComm.Broker.Register

/-!
# Sending and polling
-/

namespace AgentComm

open Lib

variable (P : Python)

/-- `_record_traffic`: a bounded buffer drops its oldest records. -/
def recordTraffic (cfg : ServerConfig) (env : Env) (m : Message) (disposition : PyStr)
    (status : ℕ) (b : Broker) : Broker :=
  let record : TrafficRecord :=
    { timestamp := env.wallTime
      source := m.metadata.sender
      destination := m.metadata.recipient
      type := m.type.value
      topic := ((m.metadata.extra.find? (·.1 = .str (lit "topic"))).map Prod.snd).getD .null
      messageId := m.messageId
      correlationId := m.correlationId
      bodySizeBytes := (P.jsonDumps (.obj m.body)).length
      disposition
      status }
  let buffer := b.trafficBuffer ++ [record]
  { b with trafficBuffer := buffer.drop (buffer.length - cfg.trafficBufferSize) }

@[simp] theorem recordTraffic_stores (cfg : ServerConfig) (env : Env) (m : Message) (d : PyStr)
    (status : ℕ) (b : Broker) : (recordTraffic P cfg env m d status b).stores = b.stores := rfl

def sendRecord (env : Env) (auth : PyStr) (status : ℕ) (detail : PyStr) : AuditRecord :=
  ⟨env.wallTime, lit "send", auth, lit "/messages", status, detail⟩

/-- The `unknown_recipient` envelope. -/
def unknownRecipient (env : Env) (m : Message) : PyStr :=
  serialize P (Error.to env.stamp m (lit "unknown_recipient")
    (lit "unknown recipient: " ++ pyText P m.metadata.recipient))

def routeSend (cfg : ServerConfig) (env : Env) (registry : Registry) (m : Message) :
    Except Exc (ℕ × Option PyStr) :=
  match Router.route P registry cfg.retryPolicy cfg.routerTimeout env.network m with
  | .ok none => .ok (204, none)
  | .ok (some reply) => .ok (200, some (serialize P reply))
  | .error e =>
    if e.kind = .agentNotFoundError then .ok (404, some (unknownRecipient P env m))
    else if e.kind = .deliveryError then
      .ok (502, some (serialize P (Error.to env.stamp m (lit "delivery_failed") e.text)))
    else .error e

/-- Turn a message away: record it, answer, log. -/
def refuseSend (cfg : ServerConfig) (env : Env) (auth : PyStr) (m : Message) (disposition : PyStr)
    (resp : Response) (detail : PyStr) (b : Broker) : Outcome × Broker :=
  answerThenLog (recordTraffic P cfg env m disposition resp.status b)
    (sendRecord env auth resp.status detail) resp

/-- A mailbox recipient: enqueue for the agent to fetch. -/
def sendToMailbox (cfg : ServerConfig) (env : Env) (auth a : PyStr) (m : Message) (b : Broker) :
    Outcome × Broker :=
  let b := { b with stores := b.stores.enqueue a (serialize P m) }
  logThenAnswer (recordTraffic P cfg env m (lit "queued") 202 b)
    (sendRecord env auth 202 (lit "queued for mailbox " ++ a)) ⟨202, .none, none⟩

/-- An endpoint recipient: route through the transport. -/
def sendToEndpoint (cfg : ServerConfig) (env : Env) (auth : PyStr) (m : Message) (b : Broker) :
    Outcome × Broker :=
  match routeSend P cfg env b.stores.registry m with
  | .error e => (.crash e, b)
  | .ok (status, body) =>
    logThenAnswer (recordTraffic P cfg env m (lit "routed") status b)
      (sendRecord env auth status (lit "recipient=" ++ pyText P m.metadata.recipient))
      ⟨status, body.elim .none .text, none⟩

/-- `_handle_send` past the decoding of the body. -/
def dispatchSend (cfg : ServerConfig) (env : Env) (auth : PyStr) (m : Message) (b : Broker) :
    Outcome × Broker :=
  if auth ≠ [] ∧ m.metadata.sender.asStr? ≠ some auth then
    refuseSend P cfg env auth m (lit "rejected")
      (errorResponse 403 (lit "sender does not match authenticated agent"))
      (lit "sender does not match authenticated agent") b
  else if !m.metadata.recipient.truthy then
    refuseSend P cfg env auth m (lit "rejected")
      (errorResponse 400 (lit "metadata.recipient is required")) (lit "missing recipient") b
  else match b.stores.registry.lookup P m.metadata.recipient with
    | .error e =>
      if e.kind = .agentNotFoundError then
        refuseSend P cfg env auth m (lit "unknown_recipient")
          ⟨404, .text (unknownRecipient P env m), none⟩
          (lit "unknown recipient: " ++ pyText P m.metadata.recipient) b
      else (.crash e, b)
    | .ok endpoint =>
      if endpoint.mailbox then
        sendToMailbox P cfg env auth (m.metadata.recipient.asStr?.getD []) m b
      else sendToEndpoint P cfg env auth m b

def handleSend (cfg : ServerConfig) (env : Env) (req : Request) (auth : PyStr) (b : Broker) :
    Outcome × Broker :=
  match readBody P cfg req with
  | .tooLarge r e => (⟨[r], e⟩, b)
  | .raises e => (.crash e, b)
  | .text raw =>
    match deserialize P raw with
    | .error e =>
      if e.isProtocolError then
        answerThenLog b (sendRecord env auth 400 (lit "deserialization error: " ++ e.text))
          (errorResponse 400 e.text)
      else (.crash e, b)
    | .ok m => dispatchSend P cfg env auth m b

/-- The sections `_auto_register_mailbox` goes through. -/
def autoRegisterStores (cfg : ServerConfig) (now : ℚ) (a : PyStr) (s : Stores) : Stores :=
  let s := s.putEndpoint { agentId := a, host := lit "mailbox", port := 0, mailbox := true }
  let s := s.ensureMailbox a
  let s := s.ensureCapabilities a
  s.autoHeartbeat a now cfg.defaultTtlSeconds

/-- `_auto_register_mailbox`; its log may raise. -/
def autoRegisterMailbox (cfg : ServerConfig) (env : Env) (a : PyStr) (b : Broker) :
    Option Exc × Broker :=
  let b := { b with stores := autoRegisterStores cfg env.monotonic.register a b.stores }
  match b.log ⟨env.wallTime, lit "auto-register", a, lit "/messages", 200,
      lit "mailbox re-registered on poll"⟩ with
  | .ok b' => (none, b')
  | .error e => (some e, b)

/-- How long a poll may hold: `?wait=`, clamped, or 25 seconds where it is no number. -/
def pollWait (query : PyStr) : ℚ :=
  match P.float ((Url.queryGet P query (lit "wait")).getD (lit "25")) with
  | .ok x => x.clamp maxPollWaitSeconds
  | .error _ => 25

/-- Whose mailbox a poll asks for: the authenticated agent's, or `?agent_id=`. -/
def pollId (auth query : PyStr) : PyStr :=
  if auth ≠ [] then auth else (Url.queryGet P query (lit "agent_id")).getD []

def messagesResponse (ms : List PyStr) : Response :=
  ⟨200, .json [(lit "messages", .arr (ms.map .str))], none⟩

/-- The end of `_handle_poll` when nothing else runs: a queue that is empty stays so until the
deadline, and what is there is taken. -/
def takeMessages (env : Env) (a : PyStr) (b : Broker) : Outcome × Broker :=
  match b.stores.mailboxes.ref? a with
  | none => (.answer (messagesResponse []), b)
  | some mbox =>
    let ms := b.stores.mailboxes.heap mbox
    logThenAnswer { b with stores := b.stores.drain mbox }
      ⟨env.wallTime, lit "poll", a, lit "/messages", 200,
        lit "delivered=" ++ intText ms.length⟩
      (messagesResponse ms)

/-- The heartbeat of a poll, then its messages. -/
def servePoll (env : Env) (a : PyStr) (b : Broker) : Outcome × Broker :=
  takeMessages env a { b with stores := b.stores.pollHeartbeat a env.monotonic.heartbeat }

def handlePoll (cfg : ServerConfig) (env : Env) (req : Request) (auth : PyStr) (b : Broker) :
    Outcome × Broker :=
  match Url.urlsplit P req.path with
  | .error e => (.crash e, b)
  | .ok (_, query) =>
    let a := pollId P auth query
    if a = [] then
      (.answer (errorResponse 400 (lit "agent_id required (auth token or ?agent_id=)")), b)
    else if (b.stores.mailboxes.ref? a).isSome then servePoll env a b
    else match autoRegisterMailbox cfg env a b with
      | (some e, b) => (.crash e, b)
      | (none, b) => servePoll env a b

end AgentComm
