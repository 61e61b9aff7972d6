import AgentComm.Proofs.Serving

/-!
# What one agent can learn of the others

The answers an agent gets about itself, its polls and registrations, depend on its own requests, on
the messages sent to it and on the sweeps. All requests of agents that never write to it can be
left out of a run without its seeing a difference.
-/

namespace AgentComm

open Lib

variable {P : Python} {cfg : ServerConfig} {env : Env} {req : Request} {a p : PyStr}
variable {b b' : Broker}

/-! ### Two brokers that are alike to an agent -/

variable (a) in
/-- Two ends of one request that leave the entry of `a` alike, with one answer if it is `own`. -/
structure SameEnd (own : Prop) (x y : Outcome × Broker) : Prop where
  entry : x.2.stores.entry a = y.2.stores.entry a
  outcome : own → x.1 = y.1

/-- Whether the log raises is told by the line alone. -/
theorem logThenAnswer_outcome (b b' : Broker) (r : AuditRecord) (resp : Response) :
    (logThenAnswer b r resp).1 = (logThenAnswer b' r resp).1 := by
  by_cases hr : r.Loggable
  · simp only [logThenAnswer, log_of_loggable hr]
  · simp only [logThenAnswer, Broker.log, if_neg (show ¬ _ = true from hr)]

section Logs

variable {own : Prop} (h : b.stores.entry a = b'.stores.entry a)

include h

theorem SameEnd.same (o : Outcome) : SameEnd a own (o, b) (o, b') := ⟨h, fun _ => rfl⟩

theorem SameEnd.answerThenLog (r : AuditRecord) (resp : Response) :
    SameEnd a own (answerThenLog b r resp) (answerThenLog b' r resp) := by
  refine ⟨by rw [answerThenLog_stores, answerThenLog_stores, h], fun _ => ?_⟩
  by_cases hr : r.Loggable
  · simp only [AgentComm.answerThenLog, log_of_loggable hr]
  · simp only [AgentComm.answerThenLog, Broker.log, if_neg (show ¬ _ = true from hr)]

theorem SameEnd.logThenAnswer {r r' : AuditRecord} {resp resp' : Response}
    (hr : own → r = r') (hresp : own → resp = resp') :
    SameEnd a own (logThenAnswer b r resp) (logThenAnswer b' r' resp') := by
  refine ⟨by rw [logThenAnswer_stores, logThenAnswer_stores, h], fun hown => ?_⟩
  rw [hr hown, hresp hown]
  exact logThenAnswer_outcome b b' r' resp'

end Logs

/-! ### Handlers -/

section Handlers

variable (h : b.stores.entry a = b'.stores.entry a)

include h

theorem isNew_alike : b.stores.isNew a = b'.stores.isNew a := by
  have hendpoint : (b.stores.entry a).endpoint = (b'.stores.entry a).endpoint := by rw [h]
  change (b.stores.entry a).endpoint.isNone = (b'.stores.entry a).endpoint.isNone
  rw [hendpoint]

theorem ref?_alike : (b.stores.mailboxes.ref? a).isSome = (b'.stores.mailboxes.ref? a).isSome := by
  have hqueue : (b.stores.entry a).queue = (b'.stores.entry a).queue := by rw [h]
  rw [← Deques.queue_isSome, ← Deques.queue_isSome]
  change (b.stores.entry a).queue.isSome = (b'.stores.entry a).queue.isSome
  rw [hqueue]

variable (cfg env) in
theorem acceptRegistration_alike (r : Registration) :
    SameEnd a (r.agentId = a) (acceptRegistration cfg env b r)
      (acceptRegistration cfg env b' r) := by
  have hnew : r.agentId = a → b.stores.isNew r.agentId = b'.stores.isNew r.agentId := by
    rintro rfl
    exact isNew_alike h
  unfold acceptRegistration
  refine .logThenAnswer ?_ (fun ha => ?_) fun ha => ?_
  · simp only [entry_registerStores]
    split_ifs with ha
    · rw [hnew ha, h]
    · exact h
  · rw [hnew ha]
  · rw [hnew ha]

variable (P cfg env req p) in
theorem handleRegister_alike (ha : a ≠ []) :
    SameEnd a (p = a) (handleRegister P cfg env req p b) (handleRegister P cfg env req p b') := by
  unfold handleRegister reject
  rcases readBody P cfg req with ⟨resp, e⟩ | raw | e
  · exact .same h _
  · simp only
    rcases P.jsonLoads raw with e | v
    · simp only
      split_ifs
      · exact .answerThenLog h _ _
      · exact .same h _
    · cases v with
      | obj data =>
        simp only
        rcases hr : validateRegisterPayload data p with r | r
        · exact .answerThenLog h _ _
        · obtain ⟨hentry, houtcome⟩ := acceptRegistration_alike cfg env h r
          refine ⟨hentry, fun hown => houtcome ?_⟩
          rw [validateRegisterPayload_id hr (hown ▸ ha), hown]
      | _ => exact .answerThenLog h _ _
  · exact .same h _

theorem handleDeregister_alike (own : Prop) :
    SameEnd a own (handleDeregister P env req p b) (handleDeregister P env req p b') := by
  unfold handleDeregister
  rcases parseAgentIdFromPath P req.path with e | c
  · exact .same h _
  · simp only
    split_ifs
    · exact .answerThenLog h _ _
    · exact .answerThenLog h _ _
    · refine .logThenAnswer ?_ (fun _ => rfl) fun _ => rfl
      simp only [entry_removeStores, h]

end Handlers

variable (P cfg env p b) in
theorem sendToEndpoint_stores (m : Message) :
    (sendToEndpoint P cfg env p m b).2.stores = b.stores := by
  cases sendToEndpoint_end P cfg env p b m with
  | raised h => rw [h]
  | routed _ h => rw [h, logThenAnswer_stores, recordTraffic_stores]

variable (P cfg env p b) in
/-- A message leaves all entries alone but that of its recipient. -/
theorem dispatchSend_other {m : Message} (hto : m.metadata.recipient ≠ .str a) :
    (dispatchSend P cfg env p m b).2.stores.entry a = b.stores.entry a := by
  cases dispatchSend_end P cfg env p b m with
  | foreign _ h | missing _ h | unknown _ h =>
    rw [h, refuseSend, answerThenLog_stores, recordTraffic_stores]
  | raised _ h => rw [h]
  | routed _ _ _ _ h => rw [h, sendToEndpoint_stores]
  | @queued c _ _ hc _ _ h =>
    have hca : c ≠ a := fun hca => hto (hca ▸ hc)
    simp only [h, sendToMailbox, logThenAnswer_stores, recordTraffic_stores,
      Stores.entry_enqueue, if_neg hca]

section Handlers

variable (h : b.stores.entry a = b'.stores.entry a)

include h

theorem dispatchSend_alike (m : Message) :
    (dispatchSend P cfg env p m b).2.stores.entry a
      = (dispatchSend P cfg env p m b').2.stores.entry a := by
  by_cases hto : m.metadata.recipient = .str a
  · have hendpoint : b.stores.registry.get? a = b'.stores.registry.get? a :=
      congrArg Entry.endpoint h
    have hlookup : b.stores.registry.lookup P m.metadata.recipient
        = b'.stores.registry.lookup P m.metadata.recipient := by
      simp only [hto, Registry.lookup, hendpoint]
    have hrefuse : ∀ disposition resp detail,
        (refuseSend P cfg env p m disposition resp detail b).2.stores.entry a
          = (refuseSend P cfg env p m disposition resp detail b').2.stores.entry a := by
      intro disposition resp detail
      simp only [refuseSend, answerThenLog_stores, recordTraffic_stores, h]
    unfold dispatchSend
    split_ifs
    · exact hrefuse _ _ _
    · exact hrefuse _ _ _
    · rw [hlookup]
      rcases b'.stores.registry.lookup P m.metadata.recipient with e | endpoint
      · simp only
        split_ifs
        · exact hrefuse _ _ _
        · exact h
      · simp only
        split_ifs
        · simp only [sendToMailbox, logThenAnswer_stores, recordTraffic_stores,
            Stores.entry_enqueue, h]
        · simp only [sendToEndpoint_stores, h]
  · rw [dispatchSend_other P cfg env p b hto, dispatchSend_other P cfg env p b' hto, h]

theorem handleSend_alike :
    (handleSend P cfg env req p b).2.stores.entry a
      = (handleSend P cfg env req p b').2.stores.entry a := by
  unfold handleSend
  rcases readBody P cfg req with ⟨resp, e⟩ | raw | e
  · exact h
  · simp only
    rcases deserialize P raw with e | m
    · simp only
      split_ifs
      · simp only [answerThenLog_stores, h]
      · exact h
    · exact dispatchSend_alike h m
  · exact h

theorem servePoll_alike (c : PyStr) :
    SameEnd a (c = a) (servePoll env c b) (servePoll env c b') := by
  refine ⟨?_, ?_⟩
  · simp only [(servePoll_spec env c _).2, entry_takeAll, Stores.entry_pollHeartbeat, h]
  · rintro rfl
    have hqueue : (b.stores.pollHeartbeat c env.monotonic.heartbeat).mailboxes.queue c
        = (b'.stores.pollHeartbeat c env.monotonic.heartbeat).mailboxes.queue c := by
      refine congrArg Entry.queue (?_ : (Stores.entry _ c) = Stores.entry _ c)
      simp only [Stores.entry_pollHeartbeat, h]
    unfold servePoll takeMessages
    simp only
    rcases hr : (b.stores.pollHeartbeat c env.monotonic.heartbeat).mailboxes.ref? c with _ | r <;>
      rcases hr' : (b'.stores.pollHeartbeat c env.monotonic.heartbeat).mailboxes.ref? c
        with _ | r' <;> simp only [Deques.queue, hr, hr', Option.map_some, Option.map_none,
          Option.some.injEq, reduceCtorEq] at hqueue
    · rfl
    · simp only [hqueue]
      exact logThenAnswer_outcome _ _ _ _

variable (cfg env) in
theorem autoRegisterMailbox_alike (c : PyStr) :
    (autoRegisterMailbox cfg env c b).1 = (autoRegisterMailbox cfg env c b').1
      ∧ (autoRegisterMailbox cfg env c b).2.stores.entry a
        = (autoRegisterMailbox cfg env c b').2.stores.entry a := by
  refine ⟨?_, ?_⟩
  · simp only [autoRegisterMailbox, Broker.log]
    split_ifs <;> rfl
  · simp only [autoRegisterMailbox_stores, entry_autoRegisterStores, h]

end Handlers

variable (P cfg env req p b) in
/-- A poll leaves all entries alone but that of the agent it asks for. -/
theorem handlePoll_other
    (hother : ∀ path query, Url.urlsplit P req.path = .ok (path, query) → pollId P p query ≠ a) :
    (handlePoll P cfg env req p b).2.stores.entry a = b.stores.entry a := by
  have hserve : ∀ (b₁ : Broker) {c : PyStr}, c ≠ a →
      (servePoll env c b₁).2.stores.entry a = b₁.stores.entry a := by
    intro b₁ c hc
    simp only [(servePoll_spec env c b₁).2, entry_takeAll, Stores.entry_pollHeartbeat,
      hc, false_and, if_false]
  have hauto : ∀ {c : PyStr}, c ≠ a →
      (autoRegisterMailbox cfg env c b).2.stores.entry a = b.stores.entry a := by
    intro c hc
    simp only [autoRegisterMailbox_stores, entry_autoRegisterStores, if_neg hc]
  cases handlePoll_end P cfg env req p b with
  | raised h | unnamed h => rw [h]
  | found hsplit hc _ _ h => rw [h, hserve _ (hc ▸ hother _ _ hsplit)]
  | halfRenewed hsplit hc _ _ h => rw [h, hauto (hc ▸ hother _ _ hsplit)]
  | renewed hsplit hc _ _ h =>
    rw [h, hserve _ (hc ▸ hother _ _ hsplit), hauto (hc ▸ hother _ _ hsplit)]

section Handlers

variable (h : b.stores.entry a = b'.stores.entry a)

include h

variable (P cfg env req p) in
theorem handlePoll_alike (ha : a ≠ []) :
    SameEnd a (p = a) (handlePoll P cfg env req p b) (handlePoll P cfg env req p b') := by
  by_cases hown : ∃ path query, Url.urlsplit P req.path = .ok (path, query) ∧ pollId P p query = a
  · obtain ⟨path, query, hsplit, rfl⟩ := hown
    obtain ⟨hraised, hentry⟩ := autoRegisterMailbox_alike cfg env h (pollId P p query)
    simp only [handlePoll, hsplit, if_neg ha, ref?_alike h]
    split_ifs
    · exact ⟨(servePoll_alike h _).entry, fun _ => (servePoll_alike h _).outcome rfl⟩
    · rcases hx : autoRegisterMailbox cfg env (pollId P p query) b with ⟨e, b₁⟩
      rcases hy : autoRegisterMailbox cfg env (pollId P p query) b' with ⟨e', b₁'⟩
      rw [hx, hy] at hraised hentry
      obtain rfl : e = e' := hraised
      rcases e with _ | e
      · exact ⟨(servePoll_alike hentry _).entry, fun _ => (servePoll_alike hentry _).outcome rfl⟩
      · exact .same hentry _
  · have hother : ∀ path query, Url.urlsplit P req.path = .ok (path, query) →
        pollId P p query ≠ a := fun path query hsplit hc => hown ⟨path, query, hsplit, hc⟩
    refine ⟨by rw [handlePoll_other P cfg env req p b hother,
      handlePoll_other P cfg env req p b' hother, h], ?_⟩
    rintro rfl
    rcases hsplit : Url.urlsplit P req.path with e | ⟨path, query⟩
    · simp only [handlePoll, hsplit]
    · exact absurd (if_pos ha) (hother path query hsplit)

/-! ### Whole requests -/

variable (P cfg env req p) in
theorem serveGet_alike (ha : a ≠ []) (path : PyStr) :
    SameEnd a (p = a ∧ path ≠ lit "/agents" ∧ path ≠ lit "/traffic")
      (serveGet P cfg env req path p b) (serveGet P cfg env req path p b') := by
  unfold serveGet
  split_ifs with hagents htraffic
  · exact ⟨h, fun hown => absurd hagents hown.2.1⟩
  · refine ⟨?_, fun hown => absurd htraffic hown.2.2⟩
    rw [handleTraffic_same, handleTraffic_same, h]
  · obtain ⟨hentry, houtcome⟩ := handlePoll_alike P cfg env req p h ha
    exact ⟨hentry, fun hown => houtcome hown.1⟩
  · exact .same h _
  · exact .same h _

variable (P cfg env req p) in
theorem servePost_alike (ha : a ≠ []) :
    SameEnd a (p = a ∧ req.path ≠ defaultMessagePath)
      (servePost P cfg env req p b) (servePost P cfg env req p b') := by
  unfold servePost
  split_ifs with hagents hmessages
  · obtain ⟨hentry, houtcome⟩ := handleRegister_alike P cfg env req p h ha
    exact ⟨hentry, fun hown => houtcome hown.1⟩
  · exact ⟨handleSend_alike h, fun hown => absurd hmessages hown.2⟩
  · exact .same h _

variable (P env req p) in
theorem serveDelete_alike (own : Prop) :
    SameEnd a own (serveDelete P env req p b) (serveDelete P env req p b') := by
  unfold serveDelete
  split_ifs
  · exact handleDeregister_alike h own
  · exact .same h _

end Handlers

variable (a) in
/-- Two brokers that hold the same of `a`, and the same rate buckets at the keys told. -/
structure Alike (keys : PyStr → Bool) (b b' : Broker) : Prop where
  entry : b.stores.entry a = b'.stores.entry a
  buckets : ∀ k, keys k = true → b.rateBuckets.get? k = b'.rateBuckets.get? k

variable {keys : PyStr → Bool}

variable (cfg) in
/-- The rate limit looks at one bucket, and changes no other. -/
theorem checkRateLimit_alike (clock : Readings) {k : PyStr} {d d' : Dict PyStr TokenBucket}
    (h : d.get? k = d'.get? k) :
    (checkRateLimit cfg clock k d).1 = (checkRateLimit cfg clock k d').1
      ∧ ∀ j, d.get? j = d'.get? j →
        (checkRateLimit cfg clock k d).2.get? j = (checkRateLimit cfg clock k d').2.get? j := by
  unfold checkRateLimit
  split_ifs
  · exact ⟨rfl, fun _ hj => hj⟩
  · rcases cfg.rateLimitPerSecond with rate | _ | _ | _ <;> simp only
    · rw [h]
      refine ⟨rfl, fun j hj => ?_⟩
      rw [Dict.get?_set, Dict.get?_set, hj]
    all_goals exact ⟨trivial, fun _ hj => hj⟩

theorem checkRateLimit_other {clock : Readings} {k j : PyStr} {d : Dict PyStr TokenBucket}
    (h : k ≠ j) : (checkRateLimit cfg clock k d).2.get? j = d.get? j := by
  unfold checkRateLimit
  split_ifs
  · rfl
  · rcases cfg.rateLimitPerSecond with rate | _ | _ | _ <;> simp only
    rw [Dict.get?_set, if_neg h]

variable (P) in
/-- The answer tells an agent of itself alone: it is none to a message it sends, and neither of the
lists. -/
def personal (req : Request) : Bool :=
  if req.method = lit "GET" then
    match Url.urlsplit P req.path with
    | .ok (path, _) => decide (path ≠ lit "/agents") && decide (path ≠ lit "/traffic")
    | .error _ => true
  else decide (req.path ≠ defaultMessagePath)

variable (P cfg env) in
theorem withAgent_alike (own : PyStr → Prop) {allow : Bool}
    {k : PyStr → Broker → Outcome × Broker}
    (hk : ∀ p b b', b.stores.entry a = b'.stores.entry a → SameEnd a (own p) (k p b) (k p b'))
    (h : Alike a keys b b')
    (hkeys : ∀ p, authenticate P cfg allow req = .agent p → keys (rateKey p) = true) :
    SameEnd a (∀ p, authenticate P cfg allow req = .agent p → own p)
      (withAgent P cfg env allow req b k) (withAgent P cfg env allow req b' k) := by
  unfold withAgent
  rcases hauth : authenticate P cfg allow req with p | detail | e
  · obtain ⟨hpassed, -⟩ := checkRateLimit_alike cfg env.monotonic (h.buckets _ (hkeys p hauth))
    simp only [hpassed]
    split_ifs
    · obtain ⟨hentry, houtcome⟩ := hk p
        { b with rateBuckets := (checkRateLimit cfg env.monotonic (rateKey p) b.rateBuckets).2 }
        { b' with rateBuckets := (checkRateLimit cfg env.monotonic (rateKey p) b'.rateBuckets).2 }
        h.entry
      exact ⟨hentry, fun hown => houtcome (hown p rfl)⟩
    · exact ⟨h.entry, fun _ => rfl⟩
  · exact .same h.entry _
  · exact .same h.entry _

theorem doGET_alike (hm : req.method = lit "GET") (ha : a ≠ []) (h : Alike a keys b b')
    (hkeys : ∀ p, getCredentials P cfg req = some (.agent p) → keys (rateKey p) = true) :
    SameEnd a (getCredentials P cfg req = some (.agent a) ∧ personal P req = true)
      (doGET P cfg env req b) (doGET P cfg env req b') := by
  unfold doGET
  unfold getCredentials at hkeys ⊢
  split_ifs at hkeys ⊢
  · exact .same h.entry _
  · rcases hsplit : Url.urlsplit P req.path with e | ⟨path, query⟩
    · exact .same h.entry _
    · simp only [hsplit, Option.some.injEq] at hkeys ⊢
      obtain ⟨hentry, houtcome⟩ := withAgent_alike P cfg env _
        (fun p _ _ h => serveGet_alike P cfg env req p h ha path) h hkeys
      refine ⟨hentry, fun hown => houtcome fun p hp => ?_⟩
      obtain ⟨hagent, hpersonal⟩ := hown
      rw [hagent, AuthResult.agent.injEq] at hp
      simp only [personal, if_pos hm, hsplit, Bool.and_eq_true, decide_eq_true_eq] at hpersonal
      exact ⟨hp.symm, hpersonal⟩

/-- A request whose principal's bucket is alike ends alike. -/
theorem handle_alike (ha : a ≠ []) (h : Alike a keys b b')
    (hkeys : ∀ p, credentials P cfg req = some (.agent p) → keys (rateKey p) = true) :
    SameEnd a (credentials P cfg req = some (.agent a) ∧ personal P req = true)
      (handle P cfg env req b) (handle P cfg env req b') := by
  unfold handle
  unfold credentials at hkeys ⊢
  by_cases hget : req.method = lit "GET"
  · simp only [if_pos hget] at hkeys ⊢
    exact doGET_alike hget ha h hkeys
  simp only [if_neg hget] at hkeys ⊢
  by_cases hpost : req.method = lit "POST"
  · simp only [if_pos hpost, Option.some.injEq] at hkeys ⊢
    obtain ⟨hentry, houtcome⟩ := withAgent_alike P cfg env _
      (fun p _ _ h => servePost_alike P cfg env req p h ha) h hkeys
    refine ⟨hentry, fun hown => houtcome fun p hp => ?_⟩
    obtain ⟨hagent, hpersonal⟩ := hown
    rw [hagent, AuthResult.agent.injEq] at hp
    simp only [personal, if_neg hget, decide_eq_true_eq] at hpersonal
    exact ⟨hp.symm, hpersonal⟩
  simp only [if_neg hpost] at hkeys ⊢
  by_cases hdelete : req.method = lit "DELETE"
  · simp only [if_pos hdelete, Option.some.injEq] at hkeys ⊢
    obtain ⟨hentry, houtcome⟩ := withAgent_alike P cfg env (fun _ => True)
      (fun p _ _ h => serveDelete_alike P env req p h True) h hkeys
    exact ⟨hentry, fun _ => houtcome fun _ _ => trivial⟩
  simp only [if_neg hdelete]
  exact .same h.entry _

/-- Another agent's request leaves the entry of `a` alone, unless it is a message to it. -/
theorem handle_spares (hc : credentials P cfg req = some (.agent p)) (hp : p ≠ []) (hpa : p ≠ a)
    (hto : ∀ m, Sends P cfg req m → m.metadata.sender = .str p →
      m.metadata.recipient ≠ .str a) :
    (handle P cfg env req b).2.stores.entry a = b.stores.entry a := by
  have heffect := handle_of_agent env b hc
  generalize (handle P cfg env req b).2.stores = s at heffect
  generalize (handle P cfg env req b).1 = o at heffect
  have hpoll : ∀ query, pollId P p query ≠ a := fun query => by rwa [pollId, if_pos hp]
  cases heffect with
  | refused | raised | read | routed => rfl
  | @enqueued _ raw m c _ hm hpath hraw hmsg hfrom hc _ _ _ =>
    have hca : c ≠ a := fun hca => hto m ⟨hm, hpath, raw, hraw, hmsg⟩ (hfrom hp) (hca ▸ hc)
    rw [Stores.entry_enqueue, if_neg hca]
  | registered _ _ _ _ _ hid =>
    rw [entry_registerStores, if_neg (hid hp ▸ hpa)]
  | removed _ _ _ hid => rw [entry_removeStores, if_neg (hid hp ▸ hpa)]
  | polled _ _ hc =>
    simp only [entry_takeAll, Stores.entry_pollHeartbeat, hc, hpoll, false_and, if_false]
  | autoRegistered _ _ hc =>
    simp only [entry_takeAll, Stores.entry_pollHeartbeat, entry_autoRegisterStores, hc, hpoll,
      false_and, if_false]
  | halfPolled _ _ hc => simp only [entry_autoRegisterStores, hc, hpoll, if_false]

/-! ### Runs -/

variable (P cfg)

variable (a) in
/-- The requests whose answers tell `a` of itself. -/
def tells : SerialAction → Bool
  | .request _ req => decide (credentials P cfg req = some (.agent a)) && personal P req
  | .sweep _ => false

variable (keys) in
/-- The sweeps, and the requests under one of the principals told. -/
def stays : SerialAction → Bool
  | .request _ req =>
    match credentials P cfg req with
    | some (.agent p) => keys (rateKey p)
    | _ => false
  | .sweep _ => true

variable (a) in
/-- It is no message to `a` that an agent sends in its own name. -/
def Unaddressed : SerialAction → Prop
  | .request _ req => ∀ p m, credentials P cfg req = some (.agent p) → Sends P cfg req m →
    m.metadata.sender = .str p → m.metadata.recipient ≠ .str a
  | .sweep _ => True

variable {P cfg}

theorem stays_request {env : Env} {req : Request} : stays P cfg keys (.request env req) = true ↔
    ∃ p, credentials P cfg req = some (.agent p) ∧ keys (rateKey p) = true := by
  simp only [stays]
  rcases credentials P cfg req with _ | p | detail | e <;> simp

/-- Which requests are left out does not matter to `a` as long as they do not write to it. -/
theorem serving_unwinds (ha : a ≠ []) (hown : keys (rateKey a) = true)
    (hanonymous : keys (rateKey []) = true) :
    (serving P cfg).Unwinds (Alike a keys) (stays P cfg keys) (tells P cfg a)
      (Unaddressed P cfg a) := by
  constructor
  · rintro b b' (⟨env, req⟩ | now) h hkeep
    · obtain ⟨p, hc, hp⟩ := stays_request.1 hkeep
      refine ⟨(handle_alike ha h fun q hq => ?_).entry, fun k hk => ?_⟩
      · rw [hc] at hq
        cases hq
        exact hp
      · change (handle P cfg env req b).2.rateBuckets.get? k
          = (handle P cfg env req b').2.rateBuckets.get? k
        rw [handle_buckets_of_agent hc, handle_buckets_of_agent hc]
        exact (checkRateLimit_alike cfg env.monotonic (h.buckets _ hp)).2 k (h.buckets k hk)
    · refine ⟨?_, h.buckets⟩
      change (sweepOnce cfg now b.stores).entry a = (sweepOnce cfg now b'.stores).entry a
      rw [entry_sweepOnce, entry_sweepOnce, h.entry]
  · rintro b b' (⟨env, req⟩ | now) h hkeep hto
    · by_cases hc : ∃ p, credentials P cfg req = some (.agent p)
      · obtain ⟨p, hc⟩ := hc
        have hp : keys (rateKey p) ≠ true := fun hp => by
          rw [stays_request.2 ⟨p, hc, hp⟩] at hkeep
          cases hkeep
        refine ⟨?_, fun k hk => ?_⟩
        · refine (handle_spares hc ?_ ?_ fun m => hto p m hc).trans h.entry
          · rintro rfl
            exact hp hanonymous
          · rintro rfl
            exact hp hown
        · change (handle P cfg env req b).2.rateBuckets.get? k = _
          have hne : rateKey p ≠ k := by
            rintro rfl
            exact hp hk
          rw [handle_buckets_of_agent hc, checkRateLimit_other hne]
          exact h.buckets k hk
      · change Alike a keys (handle P cfg env req b).2 b'
        rw [handle_credentials fun p hp => hc ⟨p, hp⟩]
        exact h
    · cases hkeep
  · rintro b b' (⟨env, req⟩ | now) h hsee
    · simp only [tells, Bool.and_eq_true, decide_eq_true_eq] at hsee
      refine congrArg (fun o => [o]) ((handle_alike ha h fun q hq => ?_).outcome hsee)
      rw [hsee.1] at hq
      cases hq
      exact hown
    · cases hsee
  · rintro (⟨env, req⟩ | now) hsee
    · simp only [tells, Bool.and_eq_true, decide_eq_true_eq] at hsee
      exact stays_request.2 ⟨a, hsee.1, hown⟩
    · cases hsee

/-- All that an agent is told of itself, and what the broker holds of it at the end, is as if
principals that never write to it had not been there, and nobody who is not let in. -/
theorem others_unseen (ha : a ≠ []) (hown : keys (rateKey a) = true)
    (hanonymous : keys (rateKey []) = true) (b : Broker) (as : List SerialAction)
    (hto : ∀ act ∈ as, stays P cfg keys act = false → Unaddressed P cfg a act) :
    (serving P cfg).seen (tells P cfg a) b as
        = (serving P cfg).seen (tells P cfg a) b (as.filter (stays P cfg keys))
      ∧ ((serving P cfg).after b as).stores.entry a
        = ((serving P cfg).after b (as.filter (stays P cfg keys))).stores.entry a := by
  have hself : Alike a keys b b := ⟨rfl, fun _ _ => rfl⟩
  obtain ⟨hseen, hafter⟩ := (serving_unwinds ha hown hanonymous).purge hself hto
  exact ⟨hseen, hafter.entry⟩

/-- A broker that knows the agents `a` and `b` by their tokens. -/
def twoAgents : ServerConfig :=
  { ServerConfig.defaults with
    agentTokens := some (Dict.ofList [(lit "a", lit "x"), (lit "b", lit "y")]) }

def pollWith (token : PyStr) : Request :=
  ⟨lit "GET", lit "/messages", some (bearerPrefix ++ token), none, []⟩

def bothPoll : List SerialAction :=
  [.request downEnv (pollWith (lit "x")), .request downEnv (pollWith (lit "y")), .sweep 100,
    .request downEnv (pollWith (lit "x"))]

/-- What `a` polls is what it polls without `b`. -/
theorem others_unseen_polls :
    (serving (plainPython []) twoAgents).seen (tells (plainPython []) twoAgents (lit "a"))
        Broker.init bothPoll
      = (serving (plainPython []) twoAgents).seen (tells (plainPython []) twoAgents (lit "a"))
        Broker.init (bothPoll.filter (stays (plainPython []) twoAgents
          fun k => decide (k = lit "a" ∨ k = rateKey [])))
      ∧ ((serving (plainPython []) twoAgents).after Broker.init bothPoll).stores.entry (lit "a")
        = ((serving (plainPython []) twoAgents).after Broker.init (bothPoll.filter
          (stays (plainPython []) twoAgents
            fun k => decide (k = lit "a" ∨ k = rateKey [])))).stores.entry (lit "a") := by
  refine others_unseen (by decide) (by decide) (by decide) Broker.init bothPoll ?_
  rintro (⟨env, req⟩ | now) hact -
  · intro p m _ hm _
    simp only [bothPoll, List.mem_cons, SerialAction.request.injEq, List.not_mem_nil, or_false,
      reduceCtorEq, false_or] at hact
    rcases hact with ⟨-, rfl⟩ | ⟨-, rfl⟩ | ⟨-, rfl⟩ <;> exact absurd hm.method (by decide)
  · trivial

end AgentComm
