import AgentComm.Proofs.Advertising
import AgentComm.Proofs.Identity
import AgentComm.Proofs.Modes
import AgentComm.Sdk.Requester

/-!
# Remote calls

A request that a `BrokeredRequester` makes of a responder through a broker is dispatched once, and
its caller is told what `_dispatch` comes to. At the broker no trace of the requester is left.
-/

namespace AgentComm

open Lib BrokeredRegistry BrokeredResponder

variable {P : Python} {cfg : ServerConfig} {clients : Clients} {b : Broker} {a r c p p' : PyStr}

/-! ### Coming and going -/

section Coming

variable {env : Env}

variable (a) in
/-- A name the broker takes and that goes through a path as it is. -/
structure GoodName : Prop where
  named : a ≠ []
  short : a.length ≤ 255
  safe : PathSafe a

theorem GoodName.own (h : GoodName a) (hp : p = [] ∨ p = a) :
    OwnEndpoint p (Agent.mailbox a) := by
  refine ⟨⟨h.named, h.short, .inl rfl, rfl, fun hbox => ?_, fun hbox => ?_⟩, fun hne => ?_⟩
  · cases hbox
  · cases hbox
  · exact (hp.resolve_left hne).symm

theorem GoodName.written (h : GoodName a) : encodable a = true := encodable_of_visible h.safe.1

theorem logThenAnswer_answers {record : AuditRecord} {resp : Response} (h : record.Loggable) :
    (logThenAnswer b record resp).1 = .answer resp := by
  rw [logThenAnswer, log_of_loggable h]

variable (P cfg a) in
/-- The registration of a mailbox goes over the wire, and its answer. -/
structure Enters : Prop where
  asked : Conveys P (.obj (registerBody (Agent.mailbox a) none))
  fits : ((asciiEncode (P.jsonDumps (.obj (registerBody (Agent.mailbox a) none)))).length : ℤ)
    ≤ cfg.maxBodySize
  answered : Conveys P (.obj [(lit "agent_id", .str a)])

theorem register_read {answer : HttpAnswer} {got : ℕ × Json}
    (h : BrokeredRegistry.request P answer = .ok got) :
    BrokeredRegistry.register P answer = .ok () := by
  rw [BrokeredRegistry.register, h]
  rfl

/-- The registration is taken up and answered. -/
theorem brokerRegister_enters (hk : Known P cfg clients a p)
    (hin : LetIn cfg b.rateBuckets [(p, env)]) (h : Enters P cfg a) (hname : GoodName a) :
    (brokerRegister P cfg clients env a b).2.stores = registerStores cfg env.monotonic.register
      ⟨Agent.mailbox a, [], none⟩ (b.stores.isNew a) b.stores
    ∧ BrokeredRegistry.register P (brokerRegister P cfg clients env a b).1 = .ok () := by
  have htakes : TakesUp P cfg env b p (Agent.mailbox a) none (clients.agentToken a) :=
    ⟨⟨hk.authenticated _ rfl, letIn_one.1 hin⟩, h.asked, h.fits⟩
  obtain ⟨reg, hreg⟩ := ownEndpoint_iff.1 (hname.own hk.own)
  obtain rfl := validate_registerBody hreg
  obtain ⟨b', hs, hhandle⟩ := htakes.checked
  rw [hreg] at hhandle
  have honce : (acceptRegistration cfg env b' ⟨Agent.mailbox a, [], none⟩).1.Once :=
    acceptRegistration_once.2 hname.written
  have hanswer : (acceptRegistration cfg env b' ⟨Agent.mailbox a, [], none⟩).1
      = .answer ⟨if b'.stores.isNew a then 201 else 200, .json [(lit "agent_id", .str a)], none⟩ :=
    logThenAnswer_answers (logThenAnswer_once.1 honce)
  refine ⟨htakes.filed (hname.own hk.own), ?_⟩
  rw [brokerRegister, brokerServes, hhandle]
  change BrokeredRegistry.register P
    ((acceptRegistration cfg env b' ⟨Agent.mailbox a, [], none⟩).1.httpAnswer P) = .ok ()
  rw [hanswer]
  exact register_read (request_fields h.answered)

theorem brokerRegister_buckets (hk : Known P cfg clients a p) :
    (brokerRegister P cfg clients env a b).2.rateBuckets
      = tallied cfg b.rateBuckets [(p, env)] := by
  have hget : lit "POST" ≠ lit "GET" := by decide
  have hc : credentials P cfg (registerRequest P (clients.agentToken a) (Agent.mailbox a) none)
      = some (.agent p) := (if_neg hget).trans (congrArg some (hk.authenticated _ rfl))
  exact handle_buckets_of_agent hc

/-- The requester takes itself out, and nobody else. -/
theorem brokerUnregister_leaves (hk : Known P cfg clients a p)
    (hin : LetIn cfg b.rateBuckets [(p, env)]) (hempty : P.utf8Decode [] = .ok [])
    (hname : GoodName a) :
    (brokerUnregister P cfg clients env a b).2.stores = removeStores a b.stores
    ∧ Agent.stopRaises
      (BrokeredRegistry.request P (brokerUnregister P cfg clients env a b).1) = none := by
  have hrequest := unregister_of_visible (a := a) (clients.agentToken a) hname.safe.1
  have hparse : parseAgentIdFromPath P (agentsPrefix ++ a) = .ok a := by
    rw [parseAgentIdFromPath_visible hname.safe.1, pathId_eq_self.2 hname.safe.2]
  have hown : ¬ (p ≠ [] ∧ a ≠ p) := fun h => h.2 (hk.own.resolve_left h.1).symm
  have hloggable : AuditRecord.Loggable
      ⟨env.wallTime, lit "deregister", a, agentsPrefix ++ a, 204, lit "deregistered"⟩ := by
    have haction : encodable (lit "deregister") = true := by decide
    have hprefix : encodable agentsPrefix = true := by decide
    have hdetail : encodable (lit "deregistered") = true := by decide
    simp only [AuditRecord.Loggable, haction, hname.written, encodable_concat, hprefix, hdetail,
      Bool.and_true]
  have hserve : ∀ req : Request, req.method = lit "DELETE" → req.path = agentsPrefix ++ a →
      authenticate P cfg false req = .agent p → handle P cfg env req b
        = logThenAnswer { counted cfg env p b with stores := removeStores a b.stores }
          ⟨env.wallTime, lit "deregister", a, agentsPrefix ++ a, 204, lit "deregistered"⟩
          ⟨204, .none, none⟩ := by
    intro req hm hreq hauth
    have hprefix : agentsPrefix.isPrefixOf req.path = true := by
      rw [hreq, List.isPrefixOf_iff_prefix]
      exact List.prefix_append _ _
    rw [handle, if_neg (by rw [hm]; decide), if_neg (by rw [hm]; decide), if_pos hm, doDELETE,
      withAgent_letIn hauth hin, serveDelete, if_pos hprefix]
    simp only [handleDeregister, hreq, hparse, if_neg hname.named, if_neg hown, counted_stores]
  have hbroker : brokerUnregister P cfg clients env a b
      = (.answer 204 [],
        (logThenAnswer { counted cfg env p b with stores := removeStores a b.stores }
          ⟨env.wallTime, lit "deregister", a, agentsPrefix ++ a, 204, lit "deregistered"⟩
          ⟨204, .none, none⟩).2) := by
    simp only [brokerUnregister, hrequest, brokerServes]
    rw [hserve _ rfl rfl (hk.authenticated _ rfl), logThenAnswer_answers hloggable]
    rfl
  rw [hbroker]
  refine ⟨logThenAnswer_stores _ _ _, ?_⟩
  simp only [BrokeredRegistry.request, hempty, bind, Except.bind, if_true]
  rfl

end Coming

/-! ### The exchange -/

section Exchange

variable {m request : Message}

theorem Boxed.congr {b' : Broker} {texts : List PyStr} (h : Boxed b r texts)
    (he : b'.stores.entry r = b.stores.entry r) : Boxed b' r texts :=
  ⟨by rw [he]; exact h.endpoint, by rw [he]; exact h.queue⟩

/-- A poll touches the mailbox it is for. -/
theorem brokerPoll_entry {env : Env} {texts : List PyStr} (h : Polls P cfg clients env a b)
    (hq : (b.stores.entry a).queue = some texts) (hc : c ≠ a) :
    (brokerPoll P cfg clients env a b).2.stores.entry c = b.stores.entry c := by
  rw [(brokerPoll_texts h hq).2, entry_takeAll, Stores.entry_pollHeartbeat]
  simp [hc.symm]

/-- A reply is queued for the requester, or dropped where it is too long. -/
theorem brokerPost_entry {env : Env} (hk : Known P cfg clients r p')
    (hin : LetIn cfg b.rateBuckets [(p', env)]) (hm : Conveys P (.obj (toDict P m)))
    (hacc : Fits P cfg m → Accepted P cfg p' a m) (hbox : Boxed b a []) (ha : a ≠ [])
    (hae : encodable a = true) (hre : encodable r = true) :
    (∃ texts, ((brokerPost P cfg clients env r m b).2.stores.entry a).queue = some texts)
    ∧ ∀ c, c ≠ a → (brokerPost P cfg clients env r m b).2.stores.entry c = b.stores.entry c := by
  by_cases hf : Fits P cfg m
  · have hqueued := (brokerPost_accepted hk hin hm (hacc hf) ha hae hre hbox.endpoint).2
    refine ⟨⟨_, (hbox.enqueue hqueued).queue⟩, fun c hc => ?_⟩
    rw [hqueued, Stores.entry_enqueue, if_neg hc.symm]
  · rw [brokerPost_unfit hk hm hf]
    exact ⟨⟨_, hbox.queue⟩, fun c _ => rfl⟩

variable (P cfg a r request) in
/-- The request gets to the recipient. -/
structure Asked : Prop where
  conveyed : Conveys P (.obj (toDict P request))
  fetched : Conveys P (.obj [(lit "messages", .arr [.str (serialize P request)])])
  decoded : deserialize P (serialize P request) = .ok request
  valid : validate P request = .ok ()
  fits : Fits P cfg request
  sender : request.metadata.sender = .str a
  recipient : request.metadata.recipient = .str r
  uncorrelated : request.correlationId = none

variable (P cfg a p') in
/-- What the recipient's task posts under `p'` gets to the requester, unless it is too long. -/
structure Posts (key : PyStr) (posted : Option Message) : Prop where
  conveyed : ∀ m, posted = some m → Conveys P (.obj (toDict P m))
  inbound : ∀ m, posted = some m → Conveys P (.obj [(lit "messages", .arr [.str (serialize P m)])])
  accepted : ∀ m, posted = some m → Fits P cfg m → Accepted P cfg p' a m
  correlated : ∀ m, posted = some m → m.correlationId = some key
  plain : ∀ m, posted = some m → wired P m = m

variable {env : ℕ → Env} {callbacks : ℕ → Agent.Callbacks} {stamps : ℕ → Stamp}
variable {waiting : List PyStr} {registry : Registry} {ask : Pull.Ask} {timeout : PyStr}
variable {posted : Option Message}

/-- What the broker is asked in an exchange, under `p` by the requester and under `p'` by the
recipient, which posts or does not. -/
def pullAsked (env : ℕ → Env) (p p' : PyStr) (posted : Option Message) : List (PyStr × Env) :=
  [(p, env 0), (p', env 1)] ++ (posted.toList.map fun _ => (p', env 2)) ++ [(p, env 3)]

variable (waiting) in
/-- The broker after the exchange: nothing is left in the recipient's mailbox. -/
theorem brokerAfterPull_met (h : Started P cfg clients registry b a r p p') (har : a ≠ r)
    (hin : LetIn cfg b.rateBuckets (pullAsked env p p' posted))
    (hask : Asked P cfg a r ask.request) (hid : (callbacks 1).agentId = r)
    (hrun : Agent.runHandler P (callbacks 1) (stamps 1) ask.request = (posted, 1))
    (hposts : Posts P cfg a p' ask.key posted) :
    Boxed (brokerAfterPull P cfg clients env callbacks stamps waiting a r ask b) r []
    ∧ (∀ c, c ≠ a → c ≠ r →
      (brokerAfterPull P cfg clients env callbacks stamps waiting a r ask b).stores.entry c
        = b.stores.entry c)
    ∧ (brokerAfterPull P cfg clients env callbacks stamps waiting a r ask b).rateBuckets
      = tallied cfg b.rateBuckets (pullAsked env p p' posted) := by
  -- the request is queued for the recipient
  obtain ⟨hsent, hrest⟩ := letIn_cons.1 hin
  rw [← brokerPost_buckets h.known.1 ask.request] at hrest
  obtain ⟨-, hqueued⟩ := brokerPost_accepted h.known.1 hsent hask.conveyed
    ⟨hask.valid, hask.fits, ownName_of_sender h.known.1.own hask.sender, hask.recipient⟩
    h.names.2 h.written.2 h.written.1 h.boxes.2.endpoint
  have hboxr := h.boxes.2.enqueue hqueued
  have hboxa := h.boxes.1.enqueue hqueued
  rw [if_pos rfl, List.nil_append] at hboxr
  rw [if_neg har.symm] at hboxa
  -- the recipient fetches it
  obtain ⟨hfetched, hrest⟩ := letIn_cons.1 hrest
  have hpoll : Polls P cfg clients (env 1) r
      (brokerPost P cfg clients (env 0) a ask.request b).2 :=
    ⟨⟨p', h.known.2, hfetched⟩, h.names.2, h.written.2⟩
  have hpolled := polled_one hask.fetched hpoll hboxr
  have hboxed := brokerPoll_boxed hpoll hboxr.queue hboxr
  have hboxed' := brokerPoll_boxed hpoll hboxr.queue hboxa
  rw [if_pos rfl] at hboxed
  rw [if_neg har.symm] at hboxed'
  have hothers : ∀ c, c ≠ r → (brokerPoll P cfg clients (env 1) r
      (brokerPost P cfg clients (env 0) a ask.request b).2).2.stores.entry c
        = b.stores.entry c := fun c hc => by
    rw [brokerPoll_entry hpoll hboxr.queue hc, hqueued, Stores.entry_enqueue, if_neg hc.symm]
  have hbuckets : (brokerPoll P cfg clients (env 1) r
      (brokerPost P cfg clients (env 0) a ask.request b).2).2.rateBuckets
        = tallied cfg b.rateBuckets [(p, env 0), (p', env 1)] := by
    rw [brokerPoll_buckets h.known.2, brokerPost_buckets h.known.1, ← tallied_append]
    rfl
  have hpollcounts : (brokerPoll P cfg clients (env 1) r
      (brokerPost P cfg clients (env 0) a ask.request b).2).2.rateBuckets
        = tallied cfg (brokerPost P cfg clients (env 0) a ask.request b).2.rateBuckets
          [(p', env 1)] := brokerPoll_buckets h.known.2
  rw [← hpollcounts] at hrest
  rcases hq : brokerPoll P cfg clients (env 1) r
      (brokerPost P cfg clients (env 0) a ask.request b).2 with ⟨delivery, b₂⟩
  rw [hq, hask.decoded] at hpolled
  rw [hq] at hboxed hboxed' hothers hbuckets hrest
  have htasks : (polled P delivery).filter (Agent.toPool waiting) = [ask.request] := by
    rw [hpolled]
    simp [Agent.toPool, hask.uncorrelated, Except.toOption]
  -- the requester's poll comes last
  obtain ⟨b₃, hafter, hkept, hqueue, hpolls, htally⟩ : ∃ b₃,
      brokerAfterPull P cfg clients env callbacks stamps waiting a r ask b
        = (brokerPoll P cfg clients (env 3) a b₃).2
      ∧ (∀ c, c ≠ a → b₃.stores.entry c = b₂.stores.entry c)
      ∧ (∃ texts, (b₃.stores.entry a).queue = some texts)
      ∧ LetIn cfg b₃.rateBuckets [(p, env 3)]
      ∧ tallied cfg b₃.rateBuckets [(p, env 3)]
        = tallied cfg b.rateBuckets (pullAsked env p p' posted) := by
    rcases posted with _ | m
    · refine ⟨b₂, ?_, fun _ _ => rfl, ⟨_, hboxed'.queue⟩, hrest, ?_⟩
      · simp only [brokerAfterPull, hq, htasks, runTasks, hrun, List.length_singleton]
      · rw [hbuckets, ← tallied_append]
        rfl
    · obtain ⟨hreply, hrest⟩ := letIn_cons.1 hrest
      obtain ⟨hqueue, hkept⟩ := brokerPost_entry h.known.2 hreply (hposts.conveyed m rfl)
        (hposts.accepted m rfl) hboxed' h.names.1 h.written.1 h.written.2
      refine ⟨(brokerPost P cfg clients (env 2) r m b₂).2, ?_, hkept, hqueue, ?_, ?_⟩
      · simp only [brokerAfterPull, hq, htasks, runTasks, hrun, List.length_singleton, hid]
      · rw [brokerPost_buckets h.known.2]
        exact hrest
      · rw [brokerPost_buckets h.known.2, hbuckets, ← tallied_append, ← tallied_append]
        rfl
  obtain ⟨texts, hqueue⟩ := hqueue
  have hfinal : ∀ c, c ≠ a →
      (brokerAfterPull P cfg clients env callbacks stamps waiting a r ask b).stores.entry c
        = b₂.stores.entry c := fun c hc => by
    rw [hafter, brokerPoll_entry ⟨⟨p, h.known.1, hpolls⟩, h.names.1, h.written.1⟩ hqueue hc,
      hkept c hc]
  refine ⟨hboxed.congr (hfinal r har.symm),
    fun c hca hcr => (hfinal c hca).trans (hothers c hcr), ?_⟩
  rw [hafter, brokerPoll_buckets h.known.1, htally]

variable (waiting timeout) in
/-- The requester gets what the recipient's task posts, unless it is too long. -/
theorem sendRequestPull_met (hP : Library P) (hempty : P.utf8Decode [] = .ok [])
    (h : Started P cfg clients registry b a r p p')
    (hin : LetIn cfg b.rateBuckets (pullAsked env p p' posted))
    (hask : Asked P cfg a r ask.request)
    (hnothing : Conveys P (.obj [(lit "messages", .arr [])])) (hid : (callbacks 1).agentId = r)
    (hrun : Agent.runHandler P (callbacks 1) (stamps 1) ask.request = (posted, 1))
    (hposts : Posts P cfg a p' ask.key posted) :
    (sendRequestPull P cfg clients env timeout callbacks stamps waiting a r ask b).calls = 1
    ∧ (∀ m, posted = some m → Fits P cfg m →
      (sendRequestPull P cfg clients env timeout callbacks stamps waiting a r ask b).result = .ok m)
    ∧ ((∀ m, posted = some m → ¬ Fits P cfg m) →
      (sendRequestPull P cfg clients env timeout callbacks stamps waiting a r ask b).result
        = .error (Pull.noReply P timeout ask)) := by
  rw [pullAsked, List.append_assoc] at hin
  obtain ⟨hfirst, hrest⟩ := letIn_append.1 hin
  obtain ⟨b', hbox, hbuckets, hpull⟩ := pull_fit timeout stamps waiting ask callbacks h hfirst
    hask.conveyed hask.fetched hempty hask.decoded hask.valid hask.fits hask.sender hask.recipient
    hask.uncorrelated
  rw [← hbuckets] at hrest
  rw [hpull]
  simp only [hrun, hid, true_and]
  rcases posted with _ | m
  · exact ⟨fun m hm => (by cases hm), fun _ => awaitReply_silent h hbox hnothing⟩
  · have hposted := awaitReply_posted timeout ask (env 3) (env 2) hP h hbox hnothing
      (hposts.conveyed m rfl) (hposts.inbound m rfl)
    constructor
    · intro m' hm' hf
      obtain rfl := Option.some.inj hm'
      exact (hposted.1 (hposts.accepted m rfl hf) (hposts.correlated m rfl) hrest).trans
        (congrArg Except.ok (hposts.plain m rfl))
    · intro hlong
      exact hposted.2 fun hall => hlong m rfl hall.1.fits

end Exchange

/-! ### The call -/

section Call

variable {q : BrokeredRequester} {x : BrokeredRequester.Meeting} {st : Stamp}
variable {payload : Option Fields} {timeout default : Option PyStr} {posted : Option Message}

variable (b q) in
/-- The broker has not heard of the requester, and the recipient has an empty mailbox there. -/
structure Callable : Prop where
  name : GoodName q.agentId
  new : b.stores.entry q.agentId = .blank
  target : q.targetAgentId ≠ []
  written : encodable q.targetAgentId = true
  box : Boxed b q.targetAgentId []

theorem Callable.ne (h : Callable b q) : q.agentId ≠ q.targetAgentId := by
  intro heq
  obtain ⟨e, he, -⟩ := h.box.endpoint
  rw [← heq, h.new] at he
  cases he

/-- What the broker is asked in a call, from the registration to the removal. -/
def BrokeredRequester.Meeting.asked (x : BrokeredRequester.Meeting) (p p' : PyStr)
    (posted : Option Message) : List (PyStr × Env) :=
  (p, x.entering) :: (pullAsked x.exchange p p' posted ++ [(p, x.leaving)])

/-- Nothing is left at the broker but the recipient's newer heartbeat. -/
structure Untraced (b b' : Broker) (r : PyStr) : Prop where
  box : Boxed b' r []
  others : ∀ c, c ≠ r → b'.stores.entry c = b.stores.entry c

variable (P q st payload) in
/-- What goes over the wire when the recipient's task posts `posted`. -/
inductive OnCallWire (posted : Option Message) : Json → Prop
  | entering : OnCallWire posted (.obj (registerBody (Agent.mailbox q.agentId) none))
  | entered : OnCallWire posted (.obj [(lit "agent_id", .str q.agentId)])
  | request : OnCallWire posted (.obj (toDict P (q.ask st payload none).request))
  | fetched : OnCallWire posted
      (.obj [(lit "messages", .arr [.str (serialize P (q.ask st payload none).request)])])
  | nothing : OnCallWire posted (.obj [(lit "messages", .arr [])])
  | reply {m} (hm : posted = some m) : OnCallWire posted (.obj (toDict P m))
  | inbound {m} (hm : posted = some m) :
      OnCallWire posted (.obj [(lit "messages", .arr [.str (serialize P m)])])

/-- The requester is started once it has registered. -/
theorem Callable.started (h : Callable b q) (hk : Known P cfg clients q.agentId p)
    (hk' : Known P cfg clients q.targetAgentId p') {b' : Broker} {now : ℚ}
    (hb' : b'.stores = registerStores cfg now ⟨Agent.mailbox q.agentId, [], none⟩
      (b.stores.isNew q.agentId) b.stores) :
    Started P cfg clients (Registry.empty.register
      { agentId := q.targetAgentId, host := lit "127.0.0.1", port := 8080 }) b' q.agentId
      q.targetAgentId p p'
    ∧ ∀ c, c ≠ q.agentId → b'.stores.entry c = b.stores.entry c := by
  have hothers : ∀ c, c ≠ q.agentId → b'.stores.entry c = b.stores.entry c := by
    intro c hc
    have hid : Registration.agentId ⟨Agent.mailbox q.agentId, [], none⟩ = q.agentId := rfl
    rw [hb', entry_registerStores, hid, if_neg hc.symm]
  have hown : b'.stores.entry q.agentId = (Entry.blank).register now (Agent.mailbox q.agentId) []
      (Registration.ttlToSet cfg ⟨Agent.mailbox q.agentId, [], none⟩
        (b.stores.isNew q.agentId)) := by
    have hid : Registration.agentId ⟨Agent.mailbox q.agentId, [], none⟩ = q.agentId := rfl
    rw [hb', entry_registerStores, if_pos hid, h.new]
  refine ⟨⟨⟨h.name.named, h.target⟩, ⟨h.name.written, h.written⟩, ?_, ⟨⟨?_, ?_⟩, ?_⟩,
    hk, hk'⟩, hothers⟩
  · exact ⟨_, by simp [Registry.register, Registry.get?]; rfl⟩
  · exact ⟨Agent.mailbox q.agentId, by rw [hown]; rfl, rfl⟩
  · rw [hown]
    rfl
  · exact h.box.congr (hothers _ h.ne.symm)

variable (P cfg clients q st payload x timeout default b) in
/-- A call is met once; it ends with what the recipient's task posts, unless that is too long. -/
structure MetOnce (posted : Option Message) : Prop where
  once : (q.request P cfg clients x st payload timeout default b).calls = 1
  untraced : Untraced b (q.request P cfg clients x st payload timeout default b).broker
    q.targetAgentId
  told : ∀ m, posted = some m → Fits P cfg m →
    (q.request P cfg clients x st payload timeout default b).result
      = q.unwrap P (default.getD q.defaultReply) m
  untold : (∀ m, posted = some m → ¬ Fits P cfg m) →
    (q.request P cfg clients x st payload timeout default b).result
      = .raised (Pull.noReply P (timeout.getD q.timeout) (q.ask st payload timeout))

variable (x default) in
theorem request_met (hP : Library P) (hempty : P.utf8Decode [] = .ok []) (h : Callable b q)
    (hk : Known P cfg clients q.agentId p) (hk' : Known P cfg clients q.targetAgentId p')
    (hin : LetIn cfg b.rateBuckets (x.asked p p' posted))
    (hask : Asked P cfg q.agentId q.targetAgentId (q.ask st payload timeout).request)
    (henters : Enters P cfg q.agentId) (hnothing : Conveys P (.obj [(lit "messages", .arr [])]))
    (hid : (x.callbacks 1).agentId = q.targetAgentId)
    (hrun : Agent.runHandler P (x.callbacks 1) (x.stamps 1) (q.ask st payload timeout).request
      = (posted, 1))
    (hposts : Posts P cfg q.agentId p' (q.ask st payload timeout).key posted) :
    MetOnce P cfg clients b q x st payload timeout default posted := by
  obtain ⟨henter, hin⟩ := letIn_cons.1 hin
  rw [← brokerRegister_buckets hk] at hin
  obtain ⟨hexchanged, hleaves⟩ := letIn_append.1 hin
  obtain ⟨hstores, hentered⟩ := brokerRegister_enters hk henter henters h.name
  obtain ⟨hstarted, hothers⟩ := h.started hk hk' hstores
  rcases hb₁ : brokerRegister P cfg clients x.entering q.agentId b with ⟨entered, b₁⟩
  rw [hb₁] at hentered hstarted hothers hexchanged hleaves
  simp only at hentered hstarted hothers hexchanged hleaves
  obtain ⟨honce, htold, huntold⟩ := sendRequestPull_met x.waiting (timeout.getD q.timeout) hP
    hempty hstarted hexchanged hask hnothing hid hrun hposts
  obtain ⟨hbox, hkept, hbuckets⟩ := brokerAfterPull_met x.waiting hstarted h.ne hexchanged hask hid
    hrun hposts
  generalize hafter : brokerAfterPull P cfg clients x.exchange x.callbacks x.stamps x.waiting
    q.agentId q.targetAgentId (q.ask st payload timeout) b₁ = b₂ at hbox hkept hbuckets
  rw [← hbuckets] at hleaves
  obtain ⟨hremoved, hleft⟩ := brokerUnregister_leaves hk hleaves hempty h.name
  rcases hb₃ : brokerUnregister P cfg clients x.leaving q.agentId b₂ with ⟨left, b₃⟩
  rw [hb₃] at hremoved hleft
  simp only at hremoved hleft
  have huntraced : Untraced b b₃ q.targetAgentId := by
    have hgone : ∀ c, b₃.stores.entry c
        = if q.agentId = c then .blank else b₂.stores.entry c := fun c => by
      rw [hremoved, entry_removeStores]
    refine ⟨hbox.congr (by rw [hgone, if_neg h.ne]), fun c hc => ?_⟩
    rw [hgone]
    split_ifs with hac
    · rw [← hac, h.new]
    · rw [hkept c (Ne.symm hac) hc, hothers c (Ne.symm hac)]
  generalize hexchange : sendRequestPull P cfg clients x.exchange (timeout.getD q.timeout)
    x.callbacks x.stamps x.waiting q.agentId q.targetAgentId (q.ask st payload timeout) b₁
      = exchange at honce htold huntold
  obtain ⟨result, calls⟩ := exchange
  simp only at honce htold huntold
  refine ⟨?_, ?_, fun m hm hf => ?_, fun hlong => ?_⟩ <;>
    simp only [BrokeredRequester.request, hb₁, hentered, hexchange, hafter, hb₃, hleft]
  · rcases result with e | reply <;> exact honce
  · rcases result with e | reply <;> exact huntraced
  · rw [htold m hm hf]
  · rw [huntold hlong]

end Call

/-! ### What the responder's dispatch comes to -/

section Responder

variable {η κ υ : Type} {R : BrokeredResponder η} {asJson : List (κ × υ) → Except Exc Fields}
variable {st : Stamp} {run : η → Inbound → Fields → HandlerEnd κ υ Exc} {m reply : Message}
variable {kind : PyStr} {handler : η}

/-- The body of the response that is made of what a handler returned. -/
def HandlerEnd.body? : HandlerEnd κ υ Exc → Option (List (κ × υ))
  | .returned .none => some []
  | .returned (.object (.ok body)) => some body
  | _ => none

/-- The three ways a handler ends. -/
theorem HandlerEnd.body_or (e : HandlerEnd κ υ Exc) :
    (∃ body, e.body? = some body) ∨ (∃ text, e = .raised (.ok text)) ∨ ¬ Tractable e := by
  rcases e with (_ | (err | body)) | (err | text)
  · exact .inl ⟨_, rfl⟩
  · exact .inr (.inr (by simp [Tractable]))
  · exact .inl ⟨_, rfl⟩
  · exact .inr (.inr (by simp [Tractable]))
  · exact .inr (.inl ⟨_, rfl⟩)

variable (P R asJson st run m) in
/-- What a task of the responder's handler pool posts. -/
def BrokeredResponder.posts : Option Message :=
  match R.onRequest P asJson st run m with
  | .returned reply => reply
  | .unsendable _ _ => none
  | .raised _ => some (Error.toFrom st m (lit "handler_error") (lit "internal handler error")
      R.agentId)

variable (P R asJson) in
theorem runHandler_posts (runs : ℕ → η → Inbound → Fields → HandlerEnd κ υ Exc)
    {stamps : ℕ → Stamp} {i : ℕ} (ht : m.type = .request) :
    Agent.runHandler P (answering R.agentId (fun i => R.onRequest P asJson (stamps i) (runs i))
      none i) (stamps i) m = (R.posts P asJson (stamps i) (runs i) m, 1) := by
  rw [runHandler_answering ht, posts]
  rcases R.onRequest P asJson (stamps i) (runs i) m with _ | _ | _ <;> rfl

/-- The request as the handlers of its kind are given it. -/
def inboundOf (m : Message) : Inbound := ⟨m, .obj m.body⟩

variable (P st run) in
theorem dispatch_called (hasks : Asks (.obj m.body) kind)
    (hlookup : R.lookupHandler kind = some handler) :
    (R.dispatch P st run (inboundOf m)).1
      = R.finish st m (run handler (inboundOf m) (paramsOf (.obj m.body))) := by
  have hasks' : Asks (inboundOf m).body kind := hasks
  rw [dispatch_handled hasks' hlookup]
  rfl

theorem dispatch_unknown (hasks : Asks (.obj m.body) kind) (hlookup : R.lookupHandler kind = none) :
    (R.dispatch P st run (inboundOf m)).1 = .ok (.error (Error.toFrom st m (lit "unknown_kind")
      (lit "unknown request kind: " ++ P.repr (.str kind)) R.agentId)) := by
  obtain ⟨hne, kvs, hbody, hget⟩ := hasks
  obtain rfl := Json.obj.inj hbody
  obtain ⟨c, s, rfl⟩ := List.exists_cons_of_ne_nil hne
  simp only [dispatch, inboundOf, hget, hlookup]
  rfl

theorem dispatch_invalid (hno : ¬ ∃ kind, Asks (.obj m.body) kind) :
    (R.dispatch P st run (inboundOf m)).1 = .ok (.error (Error.toFrom st m (lit "invalid_request")
      (lit "missing or invalid 'kind' in request body") R.agentId)) := by
  unfold dispatch inboundOf
  simp only
  split
  · rename_i c s hget
    exact absurd ⟨c :: s, List.cons_ne_nil c s, m.body, rfl, hget⟩ hno
  · rfl

theorem posts_error (h : (R.dispatch P st run (inboundOf m)).1 = .ok (.error reply)) :
    R.posts P asJson st run m = some reply := by
  simp only [posts, onRequest]
  change (R.dispatch P st run ⟨m, .obj m.body⟩).1 = _ at h
  rw [h]

variable (P asJson st run) in
/-- A handler's end, as the responder's agent makes a message of it. -/
theorem posts_called (hasks : Asks (.obj m.body) kind)
    (hlookup : R.lookupHandler kind = some handler) {e : HandlerEnd κ υ Exc}
    (he : run handler (inboundOf m) (paramsOf (.obj m.body)) = e) :
    (∀ body fields, e.body? = some body → asJson body = .ok fields →
      R.posts P asJson st run m = some (ResponseMessage.toMessage
        (Response.to st m (some fields) (some (.str R.agentId)))))
    ∧ (∀ body err, e.body? = some body → asJson body = .error err →
      R.posts P asJson st run m = none)
    ∧ (∀ text, e = .raised (.ok text) → R.posts P asJson st run m
      = some (Error.toFrom st m (lit "handler_error") text R.agentId))
    ∧ (¬ Tractable e → R.posts P asJson st run m = some (Error.toFrom st m (lit "handler_error")
      (lit "internal handler error") R.agentId)) := by
  have hdispatch := dispatch_called P st run hasks hlookup
  rw [he] at hdispatch
  change (R.dispatch P st run ⟨m, .obj m.body⟩).1 = _ at hdispatch
  have hresponse : ∀ body, e.body? = some body →
      R.finish st m e = .ok (.response (Response.to st m (some body) (some (.str R.agentId)))) := by
    intro body hbody
    rcases e with (_ | (_ | _)) | _ <;> cases hbody <;> rfl
  refine ⟨fun body fields hbody hjson => ?_, fun body err hbody hjson => ?_, fun text htext => ?_,
    fun hno => ?_⟩
  · have hjson' : asJson (Response.to st m (some body) (some (.str R.agentId))).body = .ok fields :=
      hjson
    simp only [posts, onRequest, hdispatch, hresponse body hbody, hjson']
    rfl
  · have hjson' : asJson (Response.to st m (some body) (some (.str R.agentId))).body
        = .error err := hjson
    simp only [posts, onRequest, hdispatch, hresponse body hbody, hjson']
  · subst htext
    exact posts_error hdispatch
  · have hbroken : ∃ err, R.finish st m e = .error err := by
      rcases e with (_ | (err | body)) | (err | text)
      case returned.object.error | raised.error => exact ⟨err, rfl⟩
      all_goals simp [Tractable] at hno
    obtain ⟨err, herr⟩ := hbroken
    simp only [posts, onRequest, hdispatch, herr]

/-- What is posted is a reply in the responder's name. -/
structure IsReply (r : PyStr) (st : Stamp) (m reply : Message) : Prop where
  metadata : reply.metadata = buildReplyMetadata st m (some (.str r))
  messageId : reply.messageId = st.messageId
  version : reply.version = protocolVersion
  type : reply.type = .error ∨ reply.type = .response
  correlated : reply.correlationId = some m.messageId

theorem posts_reply (h : R.posts P asJson st run m = some reply) :
    IsReply R.agentId st m reply := by
  have herror : ∀ code text, IsReply R.agentId st m (Error.toFrom st m code text R.agentId) :=
    fun _ _ => ⟨rfl, rfl, rfl, .inl rfl, rfl⟩
  by_cases hasks : ∃ kind, Asks (.obj m.body) kind
  · obtain ⟨kind, hasks⟩ := hasks
    rcases hlookup : R.lookupHandler kind with _ | handler
    · rw [posts_error (dispatch_unknown hasks hlookup)] at h
      exact Option.some.inj h ▸ herror _ _
    · obtain ⟨hreturned, hunwritten, hraised, hbroken⟩ :=
        posts_called P asJson st run hasks hlookup rfl
      rcases (run handler (inboundOf m) (paramsOf (.obj m.body))).body_or with
        ⟨body, hbody⟩ | ⟨text, htext⟩ | hno
      · rcases hjson : asJson body with err | fields
        · rw [hunwritten body err hbody hjson] at h
          cases h
        · rw [hreturned body fields hbody hjson] at h
          exact Option.some.inj h ▸ ⟨rfl, rfl, rfl, .inr rfl, rfl⟩
      · rw [hraised text htext] at h
        exact Option.some.inj h ▸ herror _ _
      · rw [hbroken hno] at h
        exact Option.some.inj h ▸ herror _ _
  · rw [posts_error (dispatch_invalid hasks)] at h
    exact Option.some.inj h ▸ herror _ _

/-- A reply gets to who sent the request, unless it is too long. -/
theorem IsReply.accepted {n : ℤ} (h : IsReply r st m reply) (hone : P.int (lit "1") = .ok n)
    (hid : st.messageId ≠ []) (htime : st.timestamp ≠ []) (hr : r ≠ []) (hp : p' = [] ∨ p' = r)
    (hsender : m.metadata.sender = .str a) (hf : Fits P cfg reply) :
    Accepted P cfg p' a reply := by
  have hmeta := h.metadata
  refine ⟨validate_of_parts hone (by rwa [h.messageId]) h.version (by rw [hmeta]; rfl) hr
    (by rwa [hmeta]) ?_, hf, ownName_of_sender hp (by rw [hmeta]; rfl),
    by rw [hmeta]; exact hsender⟩
  rw [h.correlated]
  rcases h.type with ht | ht <;> rw [ht] <;> exact ⟨_, rfl⟩

theorem IsReply.plain (h : IsReply r st m reply) : wired P reply = reply := by
  have hmeta := h.metadata
  obtain ⟨type, metadata, messageId, version, body, correlationId⟩ := reply
  obtain rfl := hmeta
  rfl

end Responder

/-! ### A request to a responder -/

section Remote

variable {η κ υ : Type} {R : BrokeredResponder η} {asJson : List (κ × υ) → Except Exc Fields}
variable {st st' : Stamp} {run : η → Inbound → Fields → HandlerEnd κ υ Exc} {m : Message}
variable {q : BrokeredRequester}

variable (P R asJson run q m) in
/-- What a caller is told of its request, by how that is dispatched. -/
structure ToldOf (default : PyStr) (late : Exc) (result : RequestEnd) : Prop where
  returned : ∀ kind handler body fields, Asks (.obj m.body) kind →
    R.lookupHandler kind = some handler →
    (run handler (inboundOf m) (paramsOf (.obj m.body))).body? = some body →
    asJson body = .ok fields → result = .returned (replyText P (.obj fields) default)
  unwritten : ∀ kind handler body e, Asks (.obj m.body) kind →
    R.lookupHandler kind = some handler →
    (run handler (inboundOf m) (paramsOf (.obj m.body))).body? = some body →
    asJson body = .error e → result = .raised late
  raised : ∀ kind handler text, Asks (.obj m.body) kind → R.lookupHandler kind = some handler →
    run handler (inboundOf m) (paramsOf (.obj m.body)) = .raised (.ok text) →
    result = .failed (q.failure P (.str text))
  broken : ∀ kind handler, Asks (.obj m.body) kind → R.lookupHandler kind = some handler →
    ¬ Tractable (run handler (inboundOf m) (paramsOf (.obj m.body))) →
    result = .failed (q.failure P (.str (lit "internal handler error")))
  unknown : ∀ kind, Asks (.obj m.body) kind → R.lookupHandler kind = none →
    result = .failed (q.failure P (.str (lit "unknown request kind: " ++ P.repr (.str kind))))
  invalid : (¬ ∃ kind, Asks (.obj m.body) kind) →
    result = .failed (q.failure P (.str (lit "missing or invalid 'kind' in request body")))

theorem unwrap_error (default code text : PyStr) :
    q.unwrap P default (Error.toFrom st m code text R.agentId)
      = .failed (q.failure P (.str text)) := rfl

theorem toldOf_posts {default : PyStr} {late : Exc} {result : RequestEnd}
    (htold : ∀ reply, R.posts P asJson st run m = some reply →
      result = q.unwrap P default reply)
    (hlate : R.posts P asJson st run m = none → result = .raised late) :
    ToldOf P R asJson run m q default late result where
  returned kind handler body fields hasks hlookup hbody hjson := by
    obtain ⟨hreturned, -⟩ := posts_called P asJson st run hasks hlookup rfl
    exact htold _ (hreturned body fields hbody hjson)
  unwritten kind handler body e hasks hlookup hbody hjson := by
    obtain ⟨-, hunwritten, -⟩ := posts_called P asJson st run hasks hlookup rfl
    exact hlate (hunwritten body e hbody hjson)
  raised kind handler text hasks hlookup htext := by
    obtain ⟨-, -, hraised, -⟩ := posts_called P asJson st run hasks hlookup rfl
    exact (htold _ (hraised text htext)).trans (unwrap_error (R := R) default _ _)
  broken kind handler hasks hlookup hno := by
    obtain ⟨-, -, -, hbroken⟩ := posts_called P asJson st run hasks hlookup rfl
    exact (htold _ (hbroken hno)).trans (unwrap_error (R := R) default _ _)
  unknown kind hasks hlookup :=
    (htold _ (posts_error (dispatch_unknown hasks hlookup))).trans (unwrap_error (R := R) _ _ _)
  invalid hno :=
    (htold _ (posts_error (dispatch_invalid hno))).trans (unwrap_error (R := R) _ _ _)

variable {x : BrokeredRequester.Meeting} {payload : Option Fields} {timeout default : Option PyStr}
variable {runs : ℕ → η → Inbound → Fields → HandlerEnd κ υ Exc}

variable (P R asJson x runs) in
/-- The recipient's agent is the responder's. -/
def BrokeredRequester.Meeting.responder : BrokeredRequester.Meeting :=
  { x with
    callbacks := answering R.agentId (fun i => R.onRequest P asJson (x.stamps i) (runs i)) none }

variable (P cfg b R asJson q payload timeout default) in
/-- A call is dispatched once, leaves no trace at the broker, and ends as the dispatch does; only a
reply that is too long for the broker is not told. -/
structure CalledRemotely (st st' : Stamp) (run : η → Inbound → Fields → HandlerEnd κ υ Exc)
    (call : RequestRun) : Prop where
  once : call.calls = 1
  untraced : Untraced b call.broker q.targetAgentId
  told : (∀ reply, R.posts P asJson st' run (q.ask st payload timeout).request = some reply →
    Fits P cfg reply) → ToldOf P R asJson run (q.ask st payload timeout).request q
      (default.getD q.defaultReply)
      (Pull.noReply P (timeout.getD q.timeout) (q.ask st payload timeout)) call.result
  long : (∃ reply, R.posts P asJson st' run (q.ask st payload timeout).request = some reply
    ∧ ¬ Fits P cfg reply) → call.result
      = .raised (Pull.noReply P (timeout.getD q.timeout) (q.ask st payload timeout))

variable (P cfg R asJson x runs timeout default) in
/-- A request to a responder comes to what its dispatch comes to, when the broker lets both in. -/
theorem called_remotely {n : ℤ} (hP : Library P) (hempty : P.utf8Decode [] = .ok [])
    (hone : P.int (lit "1") = .ok n) (hst : st.messageId ≠ [] ∧ st.timestamp ≠ [])
    (hst' : (x.stamps 1).messageId ≠ [] ∧ (x.stamps 1).timestamp ≠ []) (h : Callable b q)
    (hR : R.agentId = q.targetAgentId) (hk : Known P cfg clients q.agentId p)
    (hk' : Known P cfg clients q.targetAgentId p')
    (hin : LetIn cfg b.rateBuckets (x.asked p p' (R.posts P asJson (x.stamps 1) (runs 1)
      (q.ask st payload timeout).request)))
    (hentering : ((asciiEncode (P.jsonDumps (.obj (registerBody (Agent.mailbox q.agentId)
      none)))).length : ℤ) ≤ cfg.maxBodySize)
    (hfits : Fits P cfg (q.ask st payload timeout).request)
    (hwire : ∀ v, OnCallWire P q st payload (R.posts P asJson (x.stamps 1) (runs 1)
      (q.ask st payload timeout).request) v → Conveys P v) :
    CalledRemotely P cfg b R asJson q payload timeout default st (x.stamps 1) (runs 1)
      (q.request P cfg clients (x.responder P R asJson runs) st payload timeout default b) := by
  have hrequest : Conveys P (.obj (toDict P (q.ask st payload timeout).request)) :=
    hwire _ .request
  have hask : Asked P cfg q.agentId q.targetAgentId (q.ask st payload timeout).request :=
    ⟨hrequest, hwire _ .fetched, buildRequest_arrives hone h.name.named hst.1 hst.2 hrequest,
      buildRequest_valid hone h.name.named hst.1 hst.2, hfits, rfl, rfl, rfl⟩
  have hrun : Agent.runHandler P ((x.responder P R asJson runs).callbacks 1) (x.stamps 1)
      (q.ask st payload timeout).request
      = (R.posts P asJson (x.stamps 1) (runs 1) (q.ask st payload timeout).request, 1) :=
    runHandler_posts P R asJson runs rfl
  have hposts : Posts P cfg q.agentId p' (q.ask st payload timeout).key
      (R.posts P asJson (x.stamps 1) (runs 1) (q.ask st payload timeout).request) :=
    ⟨fun m hm => hwire _ (.reply hm), fun m hm => hwire _ (.inbound hm),
      fun m hm hf => (posts_reply hm).accepted hone hst'.1 hst'.2 (hR ▸ h.target)
        (hR ▸ hk'.own) rfl hf,
      fun m hm => (posts_reply hm).correlated, fun m hm => (posts_reply hm).plain⟩
  obtain ⟨honce, huntraced, htold, huntold⟩ := request_met
    (x.responder P R asJson runs) default hP hempty h hk hk' hin hask
    ⟨hwire _ .entering, hentering, hwire _ .entered⟩ (hwire _ .nothing) hR hrun hposts
  refine ⟨honce, huntraced, fun hshort => ?_, ?_⟩
  · exact toldOf_posts (fun reply hreply => htold reply hreply (hshort reply hreply))
      fun hnone => huntold fun m hm => by rw [hnone] at hm; cases hm
  · rintro ⟨reply, hreply, hlong⟩
    refine huntold fun m hm => ?_
    obtain rfl := Option.some.inj (hreply.symm.trans hm)
    exact hlong

/-! ### A call -/

/-- Agent `a` asks agent `b` for its state. -/
def statusRequester : BrokeredRequester := ⟨lit "a", lit "b", lit "30.0", []⟩

def statusPayload : Fields := [(lit "kind", .str (lit "monitor"))]

def statusResponder : BrokeredResponder PyStr := registered (lit "b") monitored baseMethod []

def statusRun (_ : PyStr) (_ : Inbound) (_ : Fields) : HandlerEnd PyStr Json Exc :=
  .returned (.object (.ok [(lit "reply", .str (lit "up"))]))

def statusMeeting : BrokeredRequester.Meeting :=
  ⟨callEnv, fun _ => callEnv, callEnv, fun _ => ⟨[], none, none⟩,
    fun _ => ⟨lit "then", lit "2"⟩, []⟩

/-- The broker knows the responder only. -/
def statusBroker : Broker :=
  { Broker.init with
    stores := (Stores.empty.putEndpoint (Agent.mailbox (lit "b"))).ensureMailbox (lit "b") }

abbrev statusAsk : Pull.Ask := statusRequester.ask ⟨lit "now", lit "1"⟩ (some statusPayload) none

def statusReply : Message := ResponseMessage.toMessage (Response.to ⟨lit "then", lit "2"⟩
  statusAsk.request (some [(lit "reply", .str (lit "up"))]) (some (.str (lit "b"))))

def statusValues : List Json :=
  [.obj (registerBody (Agent.mailbox (lit "a")) none), .obj [(lit "agent_id", .str (lit "a"))],
    .obj (toDict (plainPython []) statusAsk.request),
    .obj [(lit "messages", .arr [.str (serialize (plainPython []) statusAsk.request)])],
    .obj [(lit "messages", .arr [])], .obj (toDict (plainPython []) statusReply),
    .obj [(lit "messages", .arr [.str (serialize (plainPython []) statusReply)])]]

def statusPython : Python := asciiPython (statusValues.map fun v => (jsonText v, v))

theorem statusReply_posted : statusResponder.posts statusPython .ok ⟨lit "then", lit "2"⟩ statusRun
    statusAsk.request = some statusReply := rfl

theorem statusPython_conveys {v : Json} (hv : OnCallWire statusPython statusRequester
      ⟨lit "now", lit "1"⟩ (some statusPayload) (some statusReply) v) :
    Conveys statusPython v := by
  refine asciiPython_conveys ?_ (by decide +kernel) (by decide +kernel)
  cases hv with
  | entering => exact List.mem_of_getElem? (i := 0) rfl
  | entered => exact List.mem_of_getElem? (i := 1) rfl
  | request => exact List.mem_of_getElem? (i := 2) rfl
  | fetched => exact List.mem_of_getElem? (i := 3) rfl
  | nothing => exact List.mem_of_getElem? (i := 4) rfl
  | reply hm =>
    obtain rfl := Option.some.inj hm
    exact List.mem_of_getElem? (i := 5) rfl
  | inbound hm =>
    obtain rfl := Option.some.inj hm
    exact List.mem_of_getElem? (i := 6) rfl

theorem status_callable : Callable statusBroker statusRequester where
  name := by
    refine ⟨by decide, by decide, ?_, by decide, by decide⟩
    unfold Visible
    decide
  new := rfl
  target := by decide
  written := by decide
  box := ⟨⟨_, rfl, rfl⟩, rfl⟩

theorem statusReply_fits : Fits statusPython .defaults statusReply := by
  unfold Fits
  decide +kernel

theorem statusAsk_fits : Fits statusPython .defaults statusAsk.request := by
  unfold Fits
  decide +kernel

theorem called_remotely_status :
    (statusRequester.request statusPython .defaults callClients
      (statusMeeting.responder statusPython statusResponder .ok fun _ => statusRun)
      ⟨lit "now", lit "1"⟩ (some statusPayload) none none statusBroker).calls = 1
    ∧ (statusRequester.request statusPython .defaults callClients
      (statusMeeting.responder statusPython statusResponder .ok fun _ => statusRun)
      ⟨lit "now", lit "1"⟩ (some statusPayload) none none statusBroker).result
        = .returned (lit "up") := by
  have hcalled : CalledRemotely statusPython .defaults statusBroker statusResponder .ok
      statusRequester (some statusPayload) none none ⟨lit "now", lit "1"⟩ ⟨lit "then", lit "2"⟩
      statusRun (statusRequester.request statusPython .defaults callClients (statusMeeting.responder
        statusPython statusResponder .ok fun _ => statusRun) ⟨lit "now", lit "1"⟩
        (some statusPayload) none none statusBroker) :=
    called_remotely statusPython .defaults statusResponder .ok statusMeeting none none
      (fun _ => statusRun) (asciiPython_library _) rfl (n := 1) rfl ⟨by decide, by decide⟩
      ⟨by decide, by decide⟩ status_callable rfl
      (callKnown rfl (by decide) (by unfold Visible; decide) (by decide))
      (callKnown rfl (by decide) (by unfold Visible; decide) (by decide))
      (letIn_of_off (by decide) _) (by decide +kernel) statusAsk_fits
      fun v hv => statusPython_conveys hv
  obtain ⟨honce, -, htold, -⟩ := hcalled
  refine ⟨honce, (htold fun reply hreply => ?_).returned (lit "monitor") (lit "handle_monitor") _ _
    ⟨by decide, statusPayload, rfl, rfl⟩ rfl rfl rfl⟩
  obtain rfl := Option.some.inj (statusReply_posted.symm.trans hreply)
  exact statusReply_fits

end Remote

end AgentComm
