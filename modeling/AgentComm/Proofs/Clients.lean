import AgentComm.Proofs.Answers
import AgentComm.Proofs.Identity
import AgentComm.Proofs.Marks
import AgentComm.Proofs.RateLimit
import AgentComm.Proofs.Serving
import AgentComm.Sdk.Exchange

/-!
# A broker and its clients

A client whose token the broker knows is dealt with under its own id, or under the empty one. What
it asks is served if the rate limit lets it in, and answered with 429 if not.
-/

namespace AgentComm

open Lib

variable {P : Python} {cfg : ServerConfig} {clients : Clients} {env : Env} {a p : PyStr}
variable {b : Broker} {req : Request} {m : Message}

variable (P cfg clients a) in
/-- The broker takes what the agent sends for its own: under its id, or the empty one under which
nobody is told from others. Its polls ask for its mailbox. -/
structure Known (p : PyStr) : Prop where
  own : p = [] ∨ p = a
  authenticated : ∀ req : Request, req.authorization = bearerHeader (clients.agentToken a) →
    authenticate P cfg false req = .agent p
  polls : PollsAs P clients.urlencode (clients.agentToken a) a Agent.pollWait

/-! ### The rate limit -/

/-- The rate limit lets in all of the requests, which come one after the other under these ids. -/
def LetIn (cfg : ServerConfig) (buckets : Dict PyStr TokenBucket) (asked : List (PyStr × Env)) :
    Prop :=
  ∀ x ∈ (limiter cfg).output buckets (asked.map fun e => (rateKey e.1, e.2.monotonic)),
    x.passed = true

/-- The buckets once the rate limit has counted the requests. -/
def tallied (cfg : ServerConfig) (buckets : Dict PyStr TokenBucket) (asked : List (PyStr × Env)) :
    Dict PyStr TokenBucket :=
  (limiter cfg).after buckets (asked.map fun e => (rateKey e.1, e.2.monotonic))

variable (cfg env p b) in
/-- The broker once its rate limit has counted a request under `p`. -/
def counted : Broker := { b with rateBuckets := tallied cfg b.rateBuckets [(p, env)] }

@[simp] theorem counted_stores : (counted cfg env p b).stores = b.stores := rfl

section Buckets

variable {buckets : Dict PyStr TokenBucket}

theorem tallied_append (xs ys : List (PyStr × Env)) :
    tallied cfg buckets (xs ++ ys) = tallied cfg (tallied cfg buckets xs) ys := by
  simp only [tallied, List.map_append, Mealy.after_append]

theorem letIn_append {xs ys : List (PyStr × Env)} : LetIn cfg buckets (xs ++ ys)
    ↔ LetIn cfg buckets xs ∧ LetIn cfg (tallied cfg buckets xs) ys := by
  simp only [LetIn, tallied, List.map_append, Mealy.output_append, List.forall_mem_append]

theorem letIn_cons {x : PyStr × Env} {rest : List (PyStr × Env)} :
    LetIn cfg buckets (x :: rest)
      ↔ LetIn cfg buckets [x] ∧ LetIn cfg (tallied cfg buckets [x]) rest := by
  show LetIn cfg buckets ([x] ++ rest) ↔ _
  exact letIn_append

theorem letIn_one : LetIn cfg buckets [(p, env)]
    ↔ (checkRateLimit cfg env.monotonic (rateKey p) buckets).1 = true := by
  simp [LetIn, limiter]

/-- No rate limit turns nobody away. -/
theorem letIn_of_off (hoff : cfg.rateLimitPerSecond.le 0 = true) (asked : List (PyStr × Env)) :
    LetIn cfg buckets asked := by
  induction asked using List.reverseRecOn with
  | nil => simp [LetIn]
  | append_singleton asked x ih =>
    refine letIn_append.2 ⟨ih, ?_⟩
    rw [letIn_one, checkRateLimit, if_pos hoff]

end Buckets

/-! ### Requests of a client -/

theorem withAgent_letIn {allow : Bool} (hauth : authenticate P cfg allow req = .agent p)
    (hin : LetIn cfg b.rateBuckets [(p, env)]) (k : PyStr → Broker → Outcome × Broker) :
    withAgent P cfg env allow req b k = k p (counted cfg env p b) := by
  simp only [withAgent, hauth, letIn_one.1 hin, if_true]
  rfl

theorem withAgent_limited {allow : Bool} (hauth : authenticate P cfg allow req = .agent p)
    (hno : ¬ LetIn cfg b.rateBuckets [(p, env)]) (k : PyStr → Broker → Outcome × Broker) :
    withAgent P cfg env allow req b k = (.answer rateLimitedResponse, counted cfg env p b) := by
  simp only [withAgent, hauth, if_neg fun h => hno (letIn_one.2 h)]
  rfl

/-- A request that the rate limit turns away leaves nothing behind but its count. -/
theorem handle_limited (hc : credentials P cfg req = some (.agent p))
    (hno : ¬ LetIn cfg b.rateBuckets [(p, env)]) :
    handle P cfg env req b = (.answer rateLimitedResponse, counted cfg env p b) := by
  unfold credentials getCredentials at hc
  unfold handle doGET
  split_ifs at hc ⊢
  · rcases hsplit : Url.urlsplit P req.path with e | ⟨path, query⟩ <;>
      simp only [hsplit] at hc ⊢
    · cases hc
    · exact withAgent_limited (Option.some.inj hc) hno _
  · exact withAgent_limited (Option.some.inj hc) hno _
  · exact withAgent_limited (Option.some.inj hc) hno _

variable (P cfg env b req) in
/-- A request is let in under some id and has its effect, or leaves the stores as they are. -/
theorem handle_letIn_or : (∃ p, credentials P cfg req = some (.agent p)
      ∧ LetIn cfg b.rateBuckets [(p, env)] ∧ Effect P cfg env req p b.stores
        (handle P cfg env req b).1 (handle P cfg env req b).2.stores)
    ∨ (handle P cfg env req b).2.stores = b.stores := by
  by_cases hc : ∃ p, credentials P cfg req = some (.agent p)
  · obtain ⟨p, hc⟩ := hc
    by_cases hin : LetIn cfg b.rateBuckets [(p, env)]
    · exact .inl ⟨p, hc, hin, handle_of_agent env b hc⟩
    · rw [handle_limited hc hin]
      exact .inr rfl
  · rw [handle_credentials fun p hp => hc ⟨p, hp⟩]
    exact .inr rfl

/-- A poll is dealt with like the requests that carry their token in a header. -/
theorem handle_messages (hm : req.method = lit "GET") {query : PyStr}
    (hsplit : Url.urlsplit P req.path = .ok (defaultMessagePath, query)) :
    handle P cfg env req b = withAgent P cfg env false req b fun p b =>
      handlePoll P cfg env req p b := by
  have hhealth : req.path ≠ healthPath := by
    intro heq
    have hsplit' : Url.urlsplit P req.path = .ok (healthPath, []) := by rw [heq]; rfl
    cases hsplit'.symm.trans hsplit
  rw [handle, if_pos hm, doGET, if_neg hhealth, hsplit]
  rfl

namespace Known

variable (h : Known P cfg clients a p)
include h

theorem sent (m : Message) : authenticate P cfg false
    (NetworkedBrokerTransport.sendRequest P (clients.agentToken a) m) = .agent p :=
  h.authenticated _ rfl

theorem poll_request : ∃ req query,
    NetworkedBrokerTransport.poll clients.urlencode (clients.agentToken a) a Agent.pollWait
      = .ok req ∧ req.method = lit "GET"
    ∧ Url.urlsplit P req.path = .ok (defaultMessagePath, query)
    ∧ authenticate P cfg false req = .agent p ∧ pollId P p query = a := by
  obtain ⟨req, query, hreq, hm, hsplit, hid⟩ := h.polls
  refine ⟨req, query, hreq, hm, hsplit, h.authenticated req ?_, ?_⟩
  · simp only [NetworkedBrokerTransport.poll, bind, Except.bind] at hreq
    split at hreq
    · cases hreq
    · split at hreq
      · cases hreq
      · cases hreq
        rfl
  · unfold pollId at hid ⊢
    rcases h.own with rfl | rfl
    · exact hid
    · split_ifs with hp
      · rfl
      · simpa using hid

end Known

/-! ### Posts -/

theorem brokerPost_letIn (h : Known P cfg clients a p) (hin : LetIn cfg b.rateBuckets [(p, env)])
    (m : Message) : brokerPost P cfg clients env a m b
      = ((handleSend P cfg env (messagePost P m) p (counted cfg env p b)).1.httpAnswer P,
        (handleSend P cfg env (messagePost P m) p (counted cfg env p b)).2) := by
  have hserve : ∀ b', servePost P cfg env
      (NetworkedBrokerTransport.sendRequest P (clients.agentToken a) m) p b'
        = handleSend P cfg env (messagePost P m) p b' := fun b' => by
    have hpath : (NetworkedBrokerTransport.sendRequest P (clients.agentToken a) m).path
        ≠ lit "/agents" := messages_ne_agents
    rw [servePost, if_neg hpath]
    rfl
  rw [brokerPost, brokerServes, handle_post rfl, doPOST, withAgent_letIn (h.sent m) hin, hserve]

theorem brokerPost_limited (h : Known P cfg clients a p)
    (hno : ¬ LetIn cfg b.rateBuckets [(p, env)]) (m : Message) :
    brokerPost P cfg clients env a m b
      = ((Outcome.answer rateLimitedResponse).httpAnswer P, counted cfg env p b) := by
  rw [brokerPost, brokerServes, handle_post rfl, doPOST, withAgent_limited (h.sent m) hno]

theorem brokerPost_buckets (h : Known P cfg clients a p) (m : Message) :
    (brokerPost P cfg clients env a m b).2.rateBuckets
      = tallied cfg b.rateBuckets [(p, env)] := by
  have hget : lit "POST" ≠ lit "GET" := by decide
  have hc : credentials P cfg (NetworkedBrokerTransport.sendRequest P (clients.agentToken a) m)
      = some (.agent p) := (if_neg hget).trans (congrArg some (h.sent m))
  exact handle_buckets_of_agent hc

/-! ### Polls -/

theorem brokerPoll_letIn (h : Known P cfg clients a p) (ha : a ≠ [])
    (hin : LetIn cfg b.rateBuckets [(p, env)])
    (hbox : (b.stores.mailboxes.ref? a).isSome = true) : brokerPoll P cfg clients env a b
      = ((servePoll env a (counted cfg env p b)).1.httpAnswer P,
        (servePoll env a (counted cfg env p b)).2) := by
  obtain ⟨req, query, hreq, hm, hsplit, hauth, hid⟩ := h.poll_request
  have hpoll : handlePoll P cfg env req p (counted cfg env p b)
      = servePoll env a (counted cfg env p b) := by
    simp only [handlePoll, hsplit, hid, if_neg ha, counted_stores, hbox, if_true]
  simp only [brokerPoll, hreq, brokerServes, handle_messages hm hsplit]
  rw [withAgent_letIn hauth hin, hpoll]

theorem brokerPoll_limited (h : Known P cfg clients a p)
    (hno : ¬ LetIn cfg b.rateBuckets [(p, env)]) : brokerPoll P cfg clients env a b
      = ((Outcome.answer rateLimitedResponse).httpAnswer P, counted cfg env p b) := by
  obtain ⟨req, query, hreq, hm, hsplit, hauth, -⟩ := h.poll_request
  simp only [brokerPoll, hreq, brokerServes, handle_messages hm hsplit]
  rw [withAgent_limited hauth hno]

theorem brokerPoll_buckets (h : Known P cfg clients a p) :
    (brokerPoll P cfg clients env a b).2.rateBuckets
      = tallied cfg b.rateBuckets [(p, env)] := by
  obtain ⟨req, query, hreq, hm, hsplit, hauth, -⟩ := h.poll_request
  simp only [brokerPoll, hreq, brokerServes]
  rw [handle_messages hm hsplit]
  by_cases hin : LetIn cfg b.rateBuckets [(p, env)]
  · rw [withAgent_letIn hauth hin]
    exact handlePoll_unmarked.buckets
  · rw [withAgent_limited hauth hin]
    rfl

end AgentComm
