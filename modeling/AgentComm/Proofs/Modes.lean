import AgentComm.Proofs.Exchanges

/-!
# The two modes of delivery

In direct mode an exchange is as the first call of the handler left it, unless that made the
server close the connection or send what is no message: then the request is tried again. In pull
mode the handler is called once whatever it does, and the caller gets the reply if the broker takes
it for the caller's mailbox.
-/

namespace AgentComm

open Lib

variable {P : Python} {m request : Message} {st : Stamp} {a r : PyStr} {extra body : Fields}

/-- The handler came to a message that is correlated to the request. -/
def HandlerResult.Correlated (key : PyStr) : HandlerResult → Prop
  | .returned (some m) => m.correlationId = some key
  | .unsendable c _ => c = some key
  | _ => False

def HandlerResult.Raised : HandlerResult → Prop
  | .raised _ => True
  | _ => False

/-- An error with the code `handler_error` that is correlated to the request. -/
def IsHandlerError (key : PyStr) (m : Message) : Prop :=
  m.type = .error ∧ m.correlationId = some key
    ∧ (Pairs.get? (lit "code") m.body).bind Json.asStr? = some (lit "handler_error")

instance (key : PyStr) (m : Message) : Decidable (IsHandlerError key m) :=
  inferInstanceAs (Decidable (_ ∧ _ ∧ _))

/-- Each exchange called the handler once, which came to `h`, and both left the caller with the same
correlated reply, or with a `handler_error` if it raised, or without a reply. -/
structure ModesAgree (key : PyStr) (h : HandlerResult) (direct pull : Exchange) : Prop where
  once : direct.calls = 1 ∧ pull.calls = 1
  replied : h.Correlated key →
    ∃ m, direct.result = .ok m ∧ pull.result = .ok m ∧ m.correlationId = some key
  raised : h.Raised → ∃ m m', direct.result = .ok m ∧ pull.result = .ok m'
    ∧ IsHandlerError key m ∧ IsHandlerError key m'
  failed : ¬ h.Correlated key → ¬ h.Raised →
    (∃ e, direct.result = .error e) ∧ ∃ e, pull.result = .error e

/-- The handler returned nothing, or a reply that the broker takes for the requester, posted under
`q` and fetched as the rate limit lets them; or, if nothing is tried again, a message that is no
reply and that no peer can read. -/
def Agreeable (P : Python) (cfg : ServerConfig) (policy : RetryPolicy) (a q key : PyStr)
    (letIn : Prop) : HandlerResult → Prop
  | .returned none => True
  | .returned (some m) => m.correlationId = some key ∧ Accepted P cfg q a m ∧ letIn
    ∨ m.correlationId ≠ some key ∧ validate P m ≠ .ok () ∧ policy.maxAttempts = 1
  | .unsendable c _ => c ≠ some key ∧ policy.maxAttempts = 1
  | .raised _ => False

section Modes

variable {cfg : ServerConfig} {clients : Clients} {policy : RetryPolicy} {env : ℕ → Env}
variable {timeout timeout' p q : PyStr}
variable {override : Option PyStr} {stamps : ℕ → Stamp} {waiting : List PyStr}
variable {registry : Registry} {b : Broker} {handler : ℕ → Message → HandlerResult}
variable {notification : Option (Message → Option Exc)}

variable (policy timeout) in
/-- The exchange of a request that arrives, in direct mode. -/
theorem direct_exchange {endpoint : Endpoint} (hto : request.metadata.recipient = .str r)
    (hr : r ≠ []) (he : registry.get? r = some endpoint) {serve : ℕ → HttpAnswer × ℕ}
    (hserve : ∀ i, serve i = (served P (handler i request), 1)) :
    let direct := sendRequestDirect P registry policy timeout serve request
    (policy.maxAttempts < 1 → direct.calls = 0)
    ∧ (1 ≤ policy.maxAttempts → ∀ reply, TransportClient.send P endpoint timeout
        (served P (handler 1 request)) = .ok reply → direct.calls = 1
        ∧ direct.result = reply.elim (.error ⟨.deliveryError,
            lit "no reply received from " ++ P.repr request.metadata.recipient⟩) .ok)
    ∧ (Retried (TransportClient.send P endpoint timeout (served P (handler 1 request))) →
        (policy.maxAttempts = 1 → direct.calls = 1 ∧ ∃ e, direct.result = .error e)
        ∧ (2 ≤ policy.maxAttempts → 2 ≤ direct.calls)) := by
  have hanswer : (serve 1).1 = served P (handler 1 request) := by rw [hserve]
  have hcalls : ∀ i, (serve i).2 = 1 := fun i => by rw [hserve]
  refine ⟨direct_none serve hto hr he, fun hn reply hreply => ?_,
    fun hretried => ⟨fun hn => ?_, fun hn => ?_⟩⟩
  · have hsettled := direct_settled serve hto hr he hn (by rw [hanswer]; exact hreply)
    exact ⟨hsettled.1.trans (hcalls 1), hsettled.2⟩
  · have hup := direct_gives_up serve hto hr he hn (by rw [hanswer]; exact hretried)
    exact ⟨hup.1.trans (hcalls 1), hup.2⟩
  · have hmore := direct_retries serve hto hr he hn (by rw [hanswer]; exact hretried)
    rw [hcalls, hcalls] at hmore
    exact hmore

/-- Where the first attempt would be tried again, the modes agree only if it is not, and if nothing
is to reach the caller. -/
theorem agree_retried_iff {direct pull : Exchange} {h : HandlerResult} {key : PyStr}
    (hn : 1 ≤ policy.maxAttempts)
    (hretried : (policy.maxAttempts = 1 → direct.calls = 1 ∧ ∃ e, direct.result = .error e)
      ∧ (2 ≤ policy.maxAttempts → 2 ≤ direct.calls))
    (hcalls : pull.calls = 1)
    (hpull : ¬ h.Correlated key → ¬ h.Raised → ∃ e, pull.result = .error e) :
    ModesAgree key h direct pull ↔ ¬ h.Correlated key ∧ ¬ h.Raised ∧ policy.maxAttempts = 1 := by
  by_cases hone : policy.maxAttempts = 1
  · obtain ⟨honce, e, he⟩ := hretried.1 hone
    constructor
    · refine fun hagree => ⟨fun hkey => ?_, fun hraised => ?_, hone⟩
      · obtain ⟨m, hm, -⟩ := hagree.replied hkey
        rw [he] at hm
        cases hm
      · obtain ⟨m, -, hm, -⟩ := hagree.raised hraised
        rw [he] at hm
        cases hm
    · rintro ⟨hkey, hraised, -⟩
      exact ⟨⟨honce, hcalls⟩, fun h => absurd h hkey, fun h => absurd h hraised,
        fun _ _ => ⟨⟨e, he⟩, hpull hkey hraised⟩⟩
  · refine iff_of_false (fun hagree => ?_) fun hall => hone hall.2.2
    have htwice := hretried.2 (by omega)
    have honce := hagree.once.1
    omega

/-- Where the first attempt brings a message, the modes agree only if it is correlated and the
broker takes it for the requester and lets both in. -/
theorem agree_valid_iff {direct pull : Exchange} {key : PyStr} {letIn : Prop}
    (hdirect : direct.calls = 1 ∧ direct.result = .ok (wired P m)) (hcalls : pull.calls = 1)
    (hposted : (Accepted P cfg q a m → m.correlationId = some key → letIn →
        pull.result = .ok (wired P m))
      ∧ (¬ (Accepted P cfg q a m ∧ m.correlationId = some key ∧ letIn) →
        ∃ e, pull.result = .error e)) :
    ModesAgree key (.returned (some m)) direct pull
      ↔ m.correlationId = some key ∧ Accepted P cfg q a m ∧ letIn := by
  constructor
  · intro hagree
    have hkey : m.correlationId = some key := by
      by_contra hno
      obtain ⟨⟨e, he⟩, -⟩ := hagree.failed hno id
      rw [hdirect.2] at he
      cases he
    refine ⟨hkey, ?_⟩
    by_contra hlost
    obtain ⟨m', -, hm', -⟩ := hagree.replied hkey
    obtain ⟨e, he⟩ := hposted.2 fun hall => hlost ⟨hall.1, hall.2.2⟩
    rw [he] at hm'
    cases hm'
  · rintro ⟨hkey, hacc, hin⟩
    exact ⟨⟨hdirect.1, hcalls⟩, fun _ => ⟨_, hdirect.2, hposted.1 hacc hkey hin, hkey⟩, False.elim,
      fun hno _ => absurd hkey hno⟩

/-- A text that needs no escapes, and whose length `int` reads. -/
def plainText (t : PyStr) : Bool :=
  t ≠ [] && t.all (· < 128) && digits? (intText t.length) = some t.length

/-- What an interpreter of a table of plain texts conveys. -/
theorem asciiPython_conveys {values : List Json} {v : Json} (hv : v ∈ values)
    (hnodup : (values.map jsonText).Nodup) (hplain : (values.map jsonText).all plainText = true) :
    Conveys (asciiPython (values.map fun v => (jsonText v, v))) v := by
  have hget : Pairs.get? (jsonText v) (values.map fun v => (jsonText v, v)) = some v := by
    refine Pairs.get?_of_mem ?_ (List.mem_map.2 ⟨v, hv, rfl⟩)
    rw [List.map_map]
    exact hnodup
  have htext : plainText (jsonText v) = true :=
    List.all_eq_true.1 hplain _ (List.mem_map.2 ⟨v, hv, rfl⟩)
  simp only [plainText, Bool.and_eq_true, decide_eq_true_eq, List.all_eq_true] at htext
  obtain ⟨⟨hne, hsmall⟩, hlength⟩ := htext
  have hbyte : ∀ c ∈ jsonText v, (UInt8.ofNat c).toNat = c := fun c hc =>
    UInt8.toNat_ofNat_of_lt' (lt_trans (hsmall c hc) (by decide))
  have hascii : (asciiEncode (jsonText v)).all (· < 128) = true := by
    simp only [asciiEncode, List.all_map, List.all_eq_true, Function.comp_apply, decide_eq_true_eq]
    intro c hc
    rw [UInt8.lt_iff_toNat_lt, hbyte c hc]
    exact hsmall c hc
  have hbytes : (asciiEncode (jsonText v)).map UInt8.toNat = jsonText v := by
    rw [asciiEncode, List.map_map]
    exact (List.map_congr_left hbyte).trans (List.map_id _)
  have hcount : (asciiEncode (jsonText v)).length = (jsonText v).length := List.length_map _
  refine ⟨hne, ?_, ?_, ?_⟩
  · exact (if_pos hascii).trans (congrArg Except.ok hbytes)
  · simp only [asciiPython, plainPython, hget]
  · simp only [asciiPython, plainPython, hcount, hlength]

/-- A request of agent `a` to agent `b`, and a reply to it. -/
def called : Message := Agent.buildRequest ⟨lit "now", lit "1"⟩ (lit "a") (lit "b") [] []

def calledBack : Message where
  type := .response
  metadata := ⟨.str (lit "b"), .str (lit "a"), lit "then", []⟩
  messageId := lit "2"
  version := protocolVersion
  body := []
  correlationId := some (lit "1")

/-- The values that go over the wire with a reply. -/
def callValues (reply : Message) : List Json :=
  [.obj (toDict (plainPython []) called), .obj (toDict (plainPython []) reply),
    .obj [(lit "messages", .arr [])],
    .obj [(lit "messages", .arr [.str (serialize (plainPython []) called)])],
    .obj [(lit "messages", .arr [.str (serialize (plainPython []) reply)])]]

def callPython (reply : Message) : Python :=
  asciiPython ((callValues reply).map fun v => (jsonText v, v))

/-- A broker that knows both agents, and a registry that knows the recipient's server. -/
def callBroker : Broker :=
  { Broker.init with
    stores := [lit "a", lit "b"].foldl (fun s x => (s.putEndpoint
      { agentId := x, host := lit "mailbox", port := 0, mailbox := true }).ensureMailbox x)
      Stores.empty }

def callRegistry : Registry :=
  Registry.empty.register { agentId := lit "b", host := lit "127.0.0.1", port := 8080 }

/-- Clients without tokens. -/
def callClients : Clients := ⟨fun _ => none, plainUrlencode⟩

def callEnv : Env := ⟨⟨0, 0, 0, 0, 0⟩, 0, ⟨lit "then", lit "3"⟩, fun _ => closedConnection⟩

/-- Where authentication is off, the broker takes every agent's requests for its own. -/
theorem callKnown {values : List (PyStr × Json)} {query a : PyStr}
    (hquery : plainUrlencode [(lit "agent_id", a), (lit "wait", Agent.pollWait)] = .ok query)
    (hparse : (plainPython []).parseQsl query = [(lit "agent_id", a),
      (lit "wait", Agent.pollWait)]) (hvisible : Visible query) (hhash : 35 ∉ query) :
    Known (asciiPython values) .defaults callClients a [] where
  own := .inl rfl
  authenticated _ _ := rfl
  polls := pollsAs_of_quoted none ⟨query, hquery, hparse, hvisible, hhash⟩

theorem callStarted (reply : Message) : Started (callPython reply) .defaults callClients
    callRegistry callBroker (lit "a") (lit "b") [] [] where
  names := by decide
  written := by decide
  server := ⟨_, rfl⟩
  boxes := ⟨⟨⟨_, rfl, rfl⟩, rfl⟩, ⟨_, rfl, rfl⟩, rfl⟩
  known := ⟨callKnown rfl (by decide) (by unfold Visible; decide) (by decide),
    callKnown rfl (by decide) (by unfold Visible; decide) (by decide)⟩

theorem callPython_conveys {h : HandlerResult} {reply : Message}
    (hh : ∀ m, h = .returned (some m) → m = reply)
    (hnodup : ((callValues reply).map jsonText).Nodup)
    (hplain : ((callValues reply).map jsonText).all plainText = true) {v : Json}
    (hv : OnWire (callPython reply) called h v) : Conveys (callPython reply) v := by
  refine asciiPython_conveys ?_ hnodup hplain
  cases hv with
  | request => exact .head _
  | reply hm => obtain rfl := hh _ hm; exact .tail _ (.head _)
  | nothing => exact .tail _ (.tail _ (.head _))
  | fetched => exact .tail _ (.tail _ (.tail _ (.head _)))
  | inbound hm => obtain rfl := hh _ hm; exact .tail _ (.tail _ (.tail _ (.tail _ (.head _))))

/-- The exchanges of the call with a handler that always comes to `h`. -/
def callDirect (reply : Message) (h : HandlerResult) : Exchange :=
  sendRequestDirect (callPython reply) callRegistry Agent.defaultRetryPolicy (lit "5.0")
    (fun i => TransportServer.doPOST (callPython reply)
      (answering (lit "b") (fun _ _ => h) none i) ⟨lit "then", lit "2"⟩
      (messagePost (callPython reply) called)) called

def callPull (reply : Message) (h : HandlerResult) : Exchange :=
  sendRequestPull (callPython reply) .defaults callClients (fun _ => callEnv) (lit "5.0")
    (answering (lit "b") (fun _ _ => h) none) (fun _ => ⟨lit "then", lit "2"⟩) [] (lit "a")
    (lit "b") ⟨called, none⟩ callBroker

/-- The recipient's handler raises, whatever it is asked. -/
def raising : HandlerResult := .raised ⟨.valueError, lit "boom"⟩

/-- The reply a handler pool makes of that. -/
def calledError : Message :=
  Agent.handlerError (answering (lit "b") (fun _ _ => raising) none 1) ⟨lit "then", lit "2"⟩ called

def valueOf {α : Type} : Except Exc α → Option α
  | .error _ => none
  | .ok v => some v

theorem eq_of_errorOf {α : Type} : ∀ {x : Except Exc α} {e : Exc}, errorOf x = some e → x = .error e
  | .error _, _, rfl => rfl

theorem eq_of_valueOf {α : Type} : ∀ {x : Except Exc α} {v : α}, valueOf x = some v → x = .ok v
  | .ok _, _, rfl => rfl

end Modes

end AgentComm
