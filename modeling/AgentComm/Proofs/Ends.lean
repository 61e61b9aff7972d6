import AgentComm.Broker.Handler

/-!
# How the handlers end

Each handler comes to one of a few ends. They are listed here once, with what the handler has
found out when it gets there, and what follows from them never looks at the handlers again.
-/

namespace AgentComm

open Lib

variable {P : Python} {cfg : ServerConfig} {env : Env} {req : Request} {p : PyStr} {b : Broker}
variable {m : Message}

/-! ### Register payloads -/

/-- The id an audit line of a registration names. -/
def registerAuditId (data : Fields) (auth : PyStr) : PyStr :=
  match data.get (lit "agent_id") with
  | .str (c :: a) =>
    if (c :: a).length > 255 then c :: a
    else if auth ≠ [] ∧ c :: a ≠ auth then auth else c :: a
  | _ => lit "unknown"

/-- A rejection of `a` with a client error. -/
structure Rejection.Of (a : PyStr) (r : Rejection) : Prop where
  agentId : r.agentId = a
  refused : 400 ≤ r.status
  client : r.status < 500
  detail : encodable r.detail = true

/-- Every error is a rejection of `a`. -/
def Rejects {α : Type} (a : PyStr) (x : Except Rejection α) : Prop := ∀ r, x = .error r → r.Of a

/-- Every error is a bad request in the name of `a`. -/
def BadRequests {α : Type} (a : PyStr) (x : Except Rejection α) : Prop :=
  ∀ r, x = .error r → ∃ detail, encodable detail = true ∧ r = ⟨400, detail, a⟩

theorem BadRequests.bind {α β : Type} {a : PyStr} {x : Except Rejection α}
    {f : α → Except Rejection β} (hx : BadRequests a x) (hf : ∀ v, BadRequests a (f v)) :
    BadRequests a (x >>= f) :=
  Raises.bind hx hf

theorem BadRequests.ok {α : Type} {a : PyStr} (v : α) : BadRequests a (.ok v) := Raises.ok v

theorem BadRequests.error {α : Type} {a detail : PyStr} (h : encodable detail = true) :
    BadRequests a (.error ⟨400, detail, a⟩ : Except Rejection α) :=
  Raises.error ⟨detail, h, rfl⟩

theorem checkHost_bad (a : PyStr) (v : Json) : BadRequests a (checkHost a v) := by
  unfold checkHost
  split
  · split_ifs
    · exact .error (by decide)
    · exact .ok _
  · exact .error (by decide)

theorem checkPort_bad (a : PyStr) (v : Json) : BadRequests a (checkPort a v) := by
  unfold checkPort
  split
  · split_ifs
    · exact .ok _
    · exact .error (by decide)
  · exact .error (by decide)

theorem checkAddress_bad (mailbox : Bool) (a : PyStr) (host port : Json) :
    BadRequests a (checkAddress mailbox a host port) := by
  unfold checkAddress
  split_ifs
  · exact .ok _
  · exact (checkHost_bad a host).bind fun _ => (checkPort_bad a port).bind fun _ => .ok _

theorem checkScheme_bad (a : PyStr) (v : Option Json) : BadRequests a (checkScheme a v) := by
  unfold checkScheme
  split
  · exact .ok _
  · split_ifs
    · exact .ok _
    · exact .error (by decide)
  · exact .error (by decide)

theorem checkPath_bad (a : PyStr) (v : Option Json) : BadRequests a (checkPath a v) := by
  unfold checkPath
  split
  · exact .ok _
  · exact .ok _
  · exact .error (by decide)

theorem checkCapabilities_bad (a : PyStr) (v : Option Json) :
    BadRequests a (checkCapabilities a v) := by
  unfold checkCapabilities
  split
  · exact .ok _
  · exact .ok _
  · exact .error (by decide)

theorem checkTtl_bad (a : PyStr) (v : Option Json) : BadRequests a (checkTtl a v) := by
  unfold checkTtl
  split
  · exact .ok _
  · split
    · split_ifs
      · exact .error (by decide)
      · exact .ok _
    · exact .error (by decide)

/-- What is wrong with a payload whose id has passed is a bad request. -/
theorem validateRegisterPayload_bad {data : Fields} {p a : PyStr} {r : Rejection}
    (ha : checkAgentId (data.get (lit "agent_id")) = .ok a) (hid : checkIdentity p a = .ok ())
    (h : validateRegisterPayload data p = .error r) :
    ∃ detail, encodable detail = true ∧ r = ⟨400, detail, a⟩ := by
  rcases bind_eq_error h with h | ⟨a', ha', h⟩
  · rw [ha] at h
    cases h
  obtain rfl : a = a' := Except.ok.inj (ha.symm.trans ha')
  rcases bind_eq_error h with h | ⟨_, -, h⟩
  · rw [hid] at h
    cases h
  exact ((checkAddress_bad _ a _ _).bind fun _ => (checkScheme_bad a _).bind fun _ =>
    (checkPath_bad a _).bind fun _ => (checkCapabilities_bad a _).bind fun _ =>
    (checkTtl_bad a _).bind fun _ => .ok _) r h

theorem checkAgentId_rejects (data : Fields) (p : PyStr) :
    Rejects (registerAuditId data p) (checkAgentId (data.get (lit "agent_id"))) := by
  intro r h
  unfold registerAuditId
  cases hget : data.get (lit "agent_id") with
  | str s =>
    rw [hget] at h
    rcases s with _ | ⟨c, s⟩
    · cases h
      exact ⟨rfl, by simp, by simp, by decide⟩
    · simp only [checkAgentId] at h ⊢
      split_ifs at h with hlen
      cases h
      rw [if_pos hlen]
      exact ⟨rfl, by simp, by simp, by simp only; decide⟩
  | _ =>
    rw [hget] at h
    cases h
    exact ⟨rfl, by simp, by simp, by decide⟩

/-- The checked id is the one an audit line names, unless it is another's. -/
theorem checkAgentId_ok {data : Fields} {p a : PyStr}
    (h : checkAgentId (data.get (lit "agent_id")) = .ok a) :
    registerAuditId data p = if p ≠ [] ∧ a ≠ p then p else a := by
  unfold registerAuditId
  cases hget : data.get (lit "agent_id") with
  | str s =>
    rw [hget] at h
    rcases s with _ | ⟨c, s⟩
    · cases h
    · simp only [checkAgentId] at h ⊢
      split_ifs at h with hlen
      cases h
      rw [if_neg hlen]
  | _ =>
    rw [hget] at h
    cases h

theorem validateRegisterPayload_rejects (data : Fields) (p : PyStr) :
    Rejects (registerAuditId data p) (validateRegisterPayload data p) := by
  intro r h
  have hall := h
  rcases bind_eq_error h with h | ⟨a, ha, h⟩
  · exact checkAgentId_rejects data p r h
  have hid := checkAgentId_ok (p := p) ha
  rcases bind_eq_error h with h | ⟨_, hi, -⟩
  · unfold checkIdentity at h
    split_ifs at h with hne
    cases h
    rw [hid, if_pos hne]
    exact ⟨rfl, by simp, by simp, by simp only; decide⟩
  · have hne : ¬ (p ≠ [] ∧ a ≠ p) := fun hne => by
      rw [checkIdentity, if_pos hne] at hi
      cases hi
    rw [hid, if_neg hne]
    obtain ⟨detail, hdetail, rfl⟩ := validateRegisterPayload_bad ha hi hall
    exact ⟨rfl, by simp, by simp, hdetail⟩

/-- The id of an accepted registration has passed both checks of it. -/
theorem validateRegisterPayload_agentId {data : Fields} {p : PyStr} {r : Registration}
    (h : validateRegisterPayload data p = .ok r) :
    checkAgentId (data.get (lit "agent_id")) = .ok r.agentId ∧ ¬ (p ≠ [] ∧ r.agentId ≠ p) := by
  obtain ⟨a, ha, h⟩ := bind_eq_ok h
  obtain ⟨_, hid, h⟩ := bind_eq_ok h
  obtain ⟨_, -, h⟩ := bind_eq_ok h
  obtain ⟨_, -, h⟩ := bind_eq_ok h
  obtain ⟨_, -, h⟩ := bind_eq_ok h
  obtain ⟨_, -, h⟩ := bind_eq_ok h
  obtain ⟨_, -, h⟩ := bind_eq_ok h
  cases h
  unfold checkIdentity at hid
  split_ifs at hid with hne
  exact ⟨ha, hne⟩

theorem validateRegisterPayload_id {data : Fields} {p : PyStr} {r : Registration}
    (h : validateRegisterPayload data p = .ok r) (hp : p ≠ []) : r.agentId = p := by
  by_contra ha
  exact (validateRegisterPayload_agentId h).2 ⟨hp, ha⟩

/-- An accepted registration is logged under the id it is for. -/
theorem validateRegisterPayload_auditId {data : Fields} {p : PyStr} {r : Registration}
    (h : validateRegisterPayload data p = .ok r) : registerAuditId data p = r.agentId := by
  obtain ⟨ha, hne⟩ := validateRegisterPayload_agentId h
  rw [checkAgentId_ok ha, if_neg hne]

/-! ### Bodies and recipients -/

theorem readBody_refuses {resp : Response} {e : Option Exc}
    (h : readBody P cfg req = .tooLarge resp e) :
    ∃ length : ℤ, resp = ⟨413, .json [(lit "error", .str (lit "request body too large")),
      (lit "max_bytes", .int cfg.maxBodySize), (lit "received_bytes", .int length)], none⟩ := by
  unfold readBody at h
  rcases hlength : declaredLength P req with e | length
  · simp only [hlength] at h
    cases h
  simp only [hlength] at h
  split_ifs at h
  · cases h
    exact ⟨length, rfl⟩
  · split at h
    · cases h
    · split at h <;> cases h

theorem readBody_tooLarge {resp : Response} {e : Option Exc}
    (h : readBody P cfg req = .tooLarge resp e) :
    400 ≤ resp.status := by
  obtain ⟨length, rfl⟩ := readBody_refuses h
  simp

theorem lookup_ok {r : Registry} {v : Json} {e : Endpoint} (h : r.lookup P v = .ok e) :
    ∃ a, v = .str a ∧ r.get? a = some e := by
  cases v with
  | str a =>
    simp only [Registry.lookup] at h
    split at h
    · cases h
      exact ⟨a, rfl, by assumption⟩
    · cases h
  | _ => cases h

theorem asStr?_eq_some {v : Json} {s : PyStr} (h : v.asStr? = some s) : v = .str s := by
  cases v <;> cases h
  rfl

/-! ### Registrations -/

variable (P cfg env req p b) in
/-- The ends of `handleRegister`. -/
inductive RegisterEnd (x : Outcome × Broker) : Prop
  | turnedAway {resp e} (hraw : readBody P cfg req = .tooLarge resp e) (h : x = (⟨[resp], e⟩, b))
  | raised {e} (h : x = (.crash e, b))
  | rejected {r : Rejection} (hstatus : 400 ≤ r.status) (hclient : r.status < 500)
      (h : x = reject env b r)
  | accepted {raw data r} (hraw : readBody P cfg req = .text raw)
      (hdata : P.jsonLoads raw = .ok (.obj data)) (hr : validateRegisterPayload data p = .ok r)
      (h : x = acceptRegistration cfg env b r)

variable (P cfg env req p b) in
theorem handleRegister_end :
    RegisterEnd P cfg env req p b (handleRegister P cfg env req p b) := by
  unfold handleRegister
  split
  · exact .turnedAway (by assumption) rfl
  · exact .raised rfl
  · rename_i raw hraw
    split
    · split_ifs
      · exact .rejected (by decide) (by decide) rfl
      · exact .raised rfl
    · rename_i data hdata
      split
      · rename_i r hr
        have hof := validateRegisterPayload_rejects data p r hr
        exact .rejected hof.refused hof.client rfl
      · exact .accepted hraw hdata (by assumption) rfl
    · exact .rejected (by decide) (by decide) rfl

variable (P env req p b) in
/-- The ends of `handleDeregister`. -/
inductive DeregisterEnd (x : Outcome × Broker) : Prop
  | raised {e} (h : x = (.crash e, b))
  | refused {who status detail} (hstatus : 400 ≤ status)
      (h : x = answerThenLog b ⟨env.wallTime, lit "deregister", who, req.path, status, detail⟩
        (errorResponse status detail))
  | removed {a} (ha : parseAgentIdFromPath P req.path = .ok a) (hne : a ≠ [])
      (hid : p ≠ [] → a = p)
      (h : x = logThenAnswer { b with stores := removeStores a b.stores }
        ⟨env.wallTime, lit "deregister", a, agentsPrefix ++ a, 204, lit "deregistered"⟩
        ⟨204, .none, none⟩)

variable (P env req p b) in
theorem handleDeregister_end :
    DeregisterEnd P env req p b (handleDeregister P env req p b) := by
  unfold handleDeregister
  split
  · exact .raised rfl
  · rename_i a ha
    split_ifs with hnil hid
    · exact .refused (by decide) rfl
    · exact .refused (by decide) rfl
    · exact .removed ha hnil (fun hp => by_contra fun hne => hid ⟨hp, hne⟩) rfl

/-! ### Messages -/

variable (P cfg env p b) in
/-- The ends of `sendToEndpoint`. -/
inductive EndpointEnd (m : Message) (x : Outcome × Broker) : Prop
  | raised {e} (h : x = (.crash e, b))
  | routed {status body} (hroute : routeSend P cfg env b.stores.registry m = .ok (status, body))
      (h : x = logThenAnswer (recordTraffic P cfg env m (lit "routed") status b)
        (sendRecord env p status (lit "recipient=" ++ pyText P m.metadata.recipient))
        ⟨status, body.elim .none .text, none⟩)

variable (P cfg env p b m) in
theorem sendToEndpoint_end : EndpointEnd P cfg env p b m (sendToEndpoint P cfg env p m b) := by
  unfold sendToEndpoint
  split
  · exact .raised rfl
  · exact .routed (by assumption) rfl

variable (P cfg env p b) in
/-- The ends of `dispatchSend`. -/
inductive DispatchEnd (m : Message) (x : Outcome × Broker) : Prop
  | foreign (hfrom : p ≠ [] ∧ m.metadata.sender.asStr? ≠ some p)
      (h : x = refuseSend P cfg env p m (lit "rejected")
        (errorResponse 403 (lit "sender does not match authenticated agent"))
        (lit "sender does not match authenticated agent") b)
  | missing (hown : p ≠ [] → m.metadata.sender = .str p)
      (h : x = refuseSend P cfg env p m (lit "rejected")
        (errorResponse 400 (lit "metadata.recipient is required")) (lit "missing recipient") b)
  | unknown (hown : p ≠ [] → m.metadata.sender = .str p)
      (h : x = refuseSend P cfg env p m (lit "unknown_recipient")
        ⟨404, .text (unknownRecipient P env m), none⟩
        (lit "unknown recipient: " ++ pyText P m.metadata.recipient) b)
  | raised {e} (hown : p ≠ [] → m.metadata.sender = .str p) (h : x = (.crash e, b))
  | queued {a endpoint} (hown : p ≠ [] → m.metadata.sender = .str p)
      (hto : m.metadata.recipient = .str a) (he : b.stores.registry.get? a = some endpoint)
      (hbox : endpoint.mailbox = true) (h : x = sendToMailbox P cfg env p a m b)
  | routed {a endpoint} (hown : p ≠ [] → m.metadata.sender = .str p)
      (hto : m.metadata.recipient = .str a) (he : b.stores.registry.get? a = some endpoint)
      (hbox : endpoint.mailbox = false) (h : x = sendToEndpoint P cfg env p m b)

variable (P cfg env p b m) in
theorem dispatchSend_end : DispatchEnd P cfg env p b m (dispatchSend P cfg env p m b) := by
  unfold dispatchSend
  split_ifs with hfrom hto
  · exact .foreign hfrom rfl
  all_goals
    have hown : p ≠ [] → m.metadata.sender = .str p := fun hp =>
      asStr?_eq_some (by_contra fun hne => hfrom ⟨hp, hne⟩)
  · exact .missing hown rfl
  · split
    · split_ifs
      · exact .unknown hown rfl
      · exact .raised hown rfl
    · rename_i endpoint hlookup
      obtain ⟨a, ha, he⟩ := lookup_ok hlookup
      split_ifs with hbox
      · exact .queued hown ha he hbox (by rw [ha, Json.asStr?, Option.getD_some])
      · exact .routed hown ha he (Bool.eq_false_iff.2 hbox) rfl

/-- A message that is not turned away goes to the endpoint of its recipient. -/
theorem dispatchSend_endpoint {a : PyStr} {endpoint : Endpoint}
    (hallowed : ¬ (p ≠ [] ∧ m.metadata.sender.asStr? ≠ some p))
    (hto : m.metadata.recipient = .str a) (ha : m.metadata.recipient.truthy = true)
    (he : b.stores.registry.get? a = some endpoint) (hbox : endpoint.mailbox = false) :
    dispatchSend P cfg env p m b = sendToEndpoint P cfg env p m b := by
  have hlookup : b.stores.registry.lookup P m.metadata.recipient = .ok endpoint := by
    simp only [hto, Registry.lookup, he]
  rw [dispatchSend, if_neg hallowed, if_neg (by simp [ha])]
  simp only [hlookup, hbox]
  rfl

variable (P cfg env req p b) in
/-- The ends of `handleSend`. -/
inductive SendEnd (x : Outcome × Broker) : Prop
  | turnedAway {resp e} (hraw : readBody P cfg req = .tooLarge resp e) (h : x = (⟨[resp], e⟩, b))
  | raised {e} (h : x = (.crash e, b))
  | undecodable {raw e} (hraw : readBody P cfg req = .text raw)
      (hd : deserialize P raw = .error e)
      (h : x = answerThenLog b (sendRecord env p 400 (lit "deserialization error: " ++ e.text))
        (errorResponse 400 e.text))
  | dispatched {raw} {m : Message} (hraw : readBody P cfg req = .text raw)
      (hd : deserialize P raw = .ok m) (h : x = dispatchSend P cfg env p m b)

variable (P cfg env req p b) in
theorem handleSend_end : SendEnd P cfg env req p b (handleSend P cfg env req p b) := by
  unfold handleSend
  split
  · exact .turnedAway (by assumption) rfl
  · exact .raised rfl
  · rename_i raw hraw
    split
    · split_ifs
      · exact .undecodable hraw (by assumption) rfl
      · exact .raised rfl
    · exact .dispatched hraw (by assumption) rfl

/-! ### Polls -/

variable (P cfg env req p b) in
/-- The ends of `handlePoll`. -/
inductive PollEnd (x : Outcome × Broker) : Prop
  | raised {e} (h : x = (.crash e, b))
  | unnamed (h : x = (.answer (errorResponse 400
      (lit "agent_id required (auth token or ?agent_id=)")), b))
  | found {path query a} (hsplit : Url.urlsplit P req.path = .ok (path, query))
      (ha : a = pollId P p query) (hne : a ≠ []) (hq : (b.stores.mailboxes.ref? a).isSome)
      (h : x = servePoll env a b)
  | halfRenewed {path query a e} (hsplit : Url.urlsplit P req.path = .ok (path, query))
      (ha : a = pollId P p query) (hne : a ≠ []) (hq : b.stores.mailboxes.ref? a = none)
      (h : x = (.crash e, (autoRegisterMailbox cfg env a b).2))
  | renewed {path query a} (hsplit : Url.urlsplit P req.path = .ok (path, query))
      (ha : a = pollId P p query) (hne : a ≠ []) (hq : b.stores.mailboxes.ref? a = none)
      (h : x = servePoll env a (autoRegisterMailbox cfg env a b).2)

variable (P cfg env req p b) in
theorem handlePoll_end : PollEnd P cfg env req p b (handlePoll P cfg env req p b) := by
  unfold handlePoll
  split
  · exact .raised rfl
  · rename_i path query hsplit
    simp only
    split_ifs with hnil hq
    · exact .unnamed rfl
    · exact .found hsplit rfl hnil hq rfl
    · have hnone : b.stores.mailboxes.ref? (pollId P p query) = none := by simpa using hq
      rcases hauto : autoRegisterMailbox cfg env (pollId P p query) b with ⟨e | e, b'⟩
      · exact .renewed hsplit rfl hnil hnone (by rw [hauto])
      · exact .halfRenewed hsplit rfl hnil hnone (by rw [hauto])

/-! ### Before the handlers -/

variable (P cfg env req b) in
/-- The ends of a request that has to authenticate: it is turned away, or gets to its handler. -/
inductive AgentEnd (allow : Bool) (k : PyStr → Broker → Outcome × Broker) (x : Outcome × Broker) :
    Prop
  | raised {e} (hauth : authenticate P cfg allow req = .raises e) (h : x = (.crash e, b))
  | denied {detail} (hauth : authenticate P cfg allow req = .denied detail)
      (h : x = (.answer (errorResponse 401 detail), b))
  | limited {id} (hauth : authenticate P cfg allow req = .agent id)
      (hpass : (checkRateLimit cfg env.monotonic (rateKey id) b.rateBuckets).1 = false)
      (h : x = (.answer rateLimitedResponse, { b with
        rateBuckets := (checkRateLimit cfg env.monotonic (rateKey id) b.rateBuckets).2 }))
  | served {id} (hauth : authenticate P cfg allow req = .agent id)
      (hpass : (checkRateLimit cfg env.monotonic (rateKey id) b.rateBuckets).1 = true)
      (h : x = k id { b with
        rateBuckets := (checkRateLimit cfg env.monotonic (rateKey id) b.rateBuckets).2 })

variable (P cfg env req b) in
theorem withAgent_end (allow : Bool) (k : PyStr → Broker → Outcome × Broker) :
    AgentEnd P cfg env req b allow k (withAgent P cfg env allow req b k) := by
  unfold withAgent
  rcases hauth : authenticate P cfg allow req with id | detail | e
  · simp only
    split_ifs with hpass
    · exact .served hauth hpass rfl
    · exact .limited hauth (Bool.eq_false_iff.2 hpass) rfl
  · exact .denied hauth rfl
  · exact .raised hauth rfl

end AgentComm
