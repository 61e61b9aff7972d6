import AgentComm.Proofs.Ends
import AgentComm.Proofs.Entries

/-!
# What a request does to the stores

`Effect` lists what a request processed under an id can come to, with how it is then answered,
and `handle_effect` says that a request comes to one of these or to nothing at all. What follows
from it never looks at the handlers again.
-/

namespace AgentComm

open Lib

variable (P : Python) (cfg : ServerConfig)

/-- Served with the status, unless the audit log raised first. -/
def Outcome.Serves (o : Outcome) (status : ℕ) : Prop :=
  o.status? = some status ∨ ∃ e, o = .crash e

/-- A poll served with the messages, unless the audit log raised first. -/
def Outcome.Delivers (o : Outcome) (ms : List PyStr) : Prop :=
  o = .answer (messagesResponse ms) ∨ ∃ e, o = .crash e

theorem Outcome.Delivers.serves {o : Outcome} {ms : List PyStr} (h : o.Delivers ms) :
    o.Serves 200 := by
  rcases h with rfl | hcrash
  · exact .inl rfl
  · exact .inr hcrash

/-- Take what is queued for an agent, if it has a queue. -/
def Stores.takeAll (s : Stores) (a : PyStr) : Stores :=
  match s.mailboxes.ref? a with
  | some mbox => s.drain mbox
  | none => s

theorem entry_takeAll (s : Stores) (a b : PyStr) :
    (s.takeAll a).entry b
      = if a = b then { s.entry b with queue := (s.entry b).queue.map fun _ => [] }
        else s.entry b := by
  unfold Stores.takeAll
  split
  · rename_i mbox hr
    rw [Stores.entry_drain hr]
    split_ifs with hab
    · subst hab
      have hq : (s.entry a).queue = some (s.mailboxes.heap mbox) :=
        Deques.queue_eq_some.2 ⟨mbox, hr, rfl⟩
      rw [hq, Option.map_some]
    · rfl
  · rename_i hr
    split_ifs with hab
    · subst hab
      have hq : (s.entry a).queue = none := by simp [Stores.entry, Deques.queue, hr]
      ext <;> simp [hq]
    · rfl

/-- What a request processed under the id `p` has done to the stores. -/
inductive Effect (env : Env) (req : Request) (p : PyStr) (s : Stores) : Outcome → Stores → Prop
  /-- turned down -/
  | refused {o status} (ho : o.status? = some status) (hs : 400 ≤ status) :
      Effect env req p s o s
  | raised {e} : Effect env req p s (.crash e) s
  /-- a GET that is no poll -/
  | read {o path query} (hm : req.method = lit "GET")
      (hp : Url.urlsplit P req.path = .ok (path, query)) (hne : path ≠ defaultMessagePath) :
      Effect env req p s o s
  /-- a message for an endpoint -/
  | routed {o raw m a e} (hm : req.method = lit "POST") (hp : req.path = defaultMessagePath)
      (hraw : readBody P cfg req = .text raw) (hmsg : deserialize P raw = .ok m)
      (hto : m.metadata.recipient = .str a) (he : s.registry.get? a = some e)
      (hbox : e.mailbox = false) : Effect env req p s o s
  /-- a message for a mailbox -/
  | enqueued {o raw m a e} (hm : req.method = lit "POST") (hp : req.path = defaultMessagePath)
      (hraw : readBody P cfg req = .text raw) (hmsg : deserialize P raw = .ok m)
      (hfrom : p ≠ [] → m.metadata.sender = .str p)
      (hto : m.metadata.recipient = .str a) (he : s.registry.get? a = some e)
      (hbox : e.mailbox = true) (ho : o.Serves 202) :
      Effect env req p s o (s.enqueue a (serialize P m))
  | registered {o raw data r} (hm : req.method = lit "POST") (hp : req.path = lit "/agents")
      (hraw : readBody P cfg req = .text raw) (hdata : P.jsonLoads raw = .ok (.obj data))
      (hr : validateRegisterPayload data p = .ok r) (hid : p ≠ [] → r.agentId = p)
      (ho : o.Serves (if s.isNew r.agentId then 201 else 200)) :
      Effect env req p s o
        (registerStores cfg env.monotonic.register r (s.isNew r.agentId) s)
  | removed {o a} (hm : req.method = lit "DELETE") (ha : parseAgentIdFromPath P req.path = .ok a)
      (hne : a ≠ []) (hid : p ≠ [] → a = p) (ho : o.Serves 204) :
      Effect env req p s o (removeStores a s)
  /-- a poll that found a queue -/
  | polled {o query a} (hm : req.method = lit "GET")
      (hp : Url.urlsplit P req.path = .ok (defaultMessagePath, query))
      (ha : a = pollId P p query) (hne : a ≠ []) (hq : (s.mailboxes.ref? a).isSome)
      (ho : o.Delivers ((s.entry a).queue.getD [])) :
      Effect env req p s o ((s.pollHeartbeat a env.monotonic.heartbeat).takeAll a)
  /-- a poll that found none -/
  | autoRegistered {o query a} (hm : req.method = lit "GET")
      (hp : Url.urlsplit P req.path = .ok (defaultMessagePath, query))
      (ha : a = pollId P p query) (hne : a ≠ []) (hq : s.mailboxes.ref? a = none)
      (ho : o.Delivers []) :
      Effect env req p s o (((autoRegisterStores cfg env.monotonic.register a s).pollHeartbeat a
        env.monotonic.heartbeat).takeAll a)
  /-- one whose log raised half way -/
  | halfPolled {e query a} (hm : req.method = lit "GET")
      (hp : Url.urlsplit P req.path = .ok (defaultMessagePath, query))
      (ha : a = pollId P p query) (hne : a ≠ []) (hq : s.mailboxes.ref? a = none) :
      Effect env req p s (.crash e) (autoRegisterStores cfg env.monotonic.register a s)

section Outcomes

variable (b : Broker) (r : AuditRecord) (resp : Response)

theorem logThenAnswer_or : (logThenAnswer b r resp).1 = .answer resp
    ∨ ∃ e, (logThenAnswer b r resp).1 = .crash e := by
  unfold logThenAnswer
  split
  · exact .inl rfl
  · exact .inr ⟨_, rfl⟩

theorem logThenAnswer_serves : (logThenAnswer b r resp).1.Serves resp.status :=
  (logThenAnswer_or b r resp).imp (fun h => by rw [h]; rfl) id

variable {P cfg} {env : Env} {req : Request} {p : PyStr}

theorem Effect.of_answerThenLog {s : Stores} (hs : b.stores = s) (h : 400 ≤ resp.status) :
    Effect P cfg env req p s (answerThenLog b r resp).1 (answerThenLog b r resp).2.stores := by
  rw [answerThenLog_stores, hs]
  exact .refused (answerThenLog_status b r resp) h

theorem Effect.of_answer {s : Stores} (h : 400 ≤ resp.status) :
    Effect P cfg env req p s (.answer resp) s :=
  .refused (Outcome.status?_answer resp) h

end Outcomes

/-! ### Handlers -/

variable {P cfg} {env : Env} {req : Request} {p : PyStr} {b : Broker}

theorem handleRegister_effect (hm : req.method = lit "POST") (hp : req.path = lit "/agents") :
    Effect P cfg env req p b.stores (handleRegister P cfg env req p b).1
      (handleRegister P cfg env req p b).2.stores := by
  have hreject : ∀ r : Rejection, 400 ≤ r.status → Effect P cfg env req p b.stores
      (reject env b r).1 (reject env b r).2.stores :=
    fun r hr => .of_answerThenLog b _ _ rfl hr
  cases handleRegister_end P cfg env req p b with
  | turnedAway hraw h => exact h ▸ .refused rfl (readBody_tooLarge hraw)
  | raised h => exact h ▸ .raised
  | rejected hstatus _ h => exact h ▸ hreject _ hstatus
  | accepted hraw hdata hr h =>
    simp only [h, acceptRegistration, logThenAnswer_stores]
    exact .registered hm hp hraw hdata hr (validateRegisterPayload_id hr)
      (logThenAnswer_serves _ _ _)

theorem handleDeregister_effect (hm : req.method = lit "DELETE") :
    Effect P cfg env req p b.stores (handleDeregister P env req p b).1
      (handleDeregister P env req p b).2.stores := by
  cases handleDeregister_end P env req p b with
  | raised h => exact h ▸ .raised
  | refused hstatus h => exact h ▸ .of_answerThenLog b _ _ rfl hstatus
  | removed ha hne hid h =>
    rw [h, logThenAnswer_stores]
    exact .removed hm ha hne hid (logThenAnswer_serves _ _ _)

theorem refuseSend_effect {m : Message} {disposition detail : PyStr} {resp : Response}
    (h : 400 ≤ resp.status) : Effect P cfg env req p b.stores
      (refuseSend P cfg env p m disposition resp detail b).1
      (refuseSend P cfg env p m disposition resp detail b).2.stores :=
  .of_answerThenLog _ _ _ rfl h

theorem dispatchSend_effect {raw : PyStr} {m : Message} (hm : req.method = lit "POST")
    (hp : req.path = defaultMessagePath) (hraw : readBody P cfg req = .text raw)
    (hmsg : deserialize P raw = .ok m) :
    Effect P cfg env req p b.stores (dispatchSend P cfg env p m b).1
      (dispatchSend P cfg env p m b).2.stores := by
  cases dispatchSend_end P cfg env p b m with
  | foreign _ h | missing _ h => exact h ▸ refuseSend_effect (by simp [errorResponse])
  | unknown _ h => exact h ▸ refuseSend_effect (by simp)
  | raised _ h => exact h ▸ .raised
  | queued hown hto he hbox h =>
    simp only [h, sendToMailbox, logThenAnswer_stores, recordTraffic_stores]
    exact .enqueued hm hp hraw hmsg hown hto he hbox (logThenAnswer_serves _ _ _)
  | routed _ hto he hbox h =>
    rw [h]
    cases sendToEndpoint_end P cfg env p b m with
    | raised h => exact h ▸ .raised
    | routed _ h =>
      rw [h, logThenAnswer_stores, recordTraffic_stores]
      exact .routed hm hp hraw hmsg hto he hbox

theorem handleSend_effect (hm : req.method = lit "POST") (hp : req.path = defaultMessagePath) :
    Effect P cfg env req p b.stores (handleSend P cfg env req p b).1
      (handleSend P cfg env req p b).2.stores := by
  cases handleSend_end P cfg env req p b with
  | turnedAway hraw h => exact h ▸ .refused rfl (readBody_tooLarge hraw)
  | raised h => exact h ▸ .raised
  | undecodable _ _ h => exact h ▸ .of_answerThenLog b _ _ rfl (by simp [errorResponse])
  | dispatched hraw hd h => exact h ▸ dispatchSend_effect hm hp hraw hd

variable (env) in
theorem servePoll_spec (a : PyStr) (b : Broker) :
    (servePoll env a b).1.Delivers ((b.stores.entry a).queue.getD [])
    ∧ (servePoll env a b).2.stores
      = (b.stores.pollHeartbeat a env.monotonic.heartbeat).takeAll a := by
  have hqueue : (b.stores.entry a).queue
      = (b.stores.pollHeartbeat a env.monotonic.heartbeat).mailboxes.queue a := by
    unfold Stores.pollHeartbeat
    split_ifs <;> rfl
  rw [hqueue]
  unfold servePoll takeMessages Stores.takeAll
  split
  · rename_i hr
    have hnone : (b.stores.pollHeartbeat a env.monotonic.heartbeat).mailboxes.queue a = none := by
      rw [Deques.queue, hr, Option.map_none]
    simp only [hr, hnone, Option.getD_none]
    exact ⟨.inl rfl, trivial⟩
  · rename_i mbox hr
    simp only [hr, Deques.queue_eq_some.2 ⟨mbox, hr, rfl⟩, logThenAnswer_stores, Option.getD_some]
    exact ⟨logThenAnswer_or _ _ _, trivial⟩

variable (cfg env) in
theorem autoRegisterMailbox_stores (a : PyStr) (b : Broker) :
    (autoRegisterMailbox cfg env a b).2.stores
      = autoRegisterStores cfg env.monotonic.register a b.stores := by
  simp only [autoRegisterMailbox]
  split
  · exact Broker.log_stores (by assumption)
  · rfl

theorem handlePoll_effect {query : PyStr} (hm : req.method = lit "GET")
    (hp : Url.urlsplit P req.path = .ok (defaultMessagePath, query)) :
    Effect P cfg env req p b.stores (handlePoll P cfg env req p b).1
      (handlePoll P cfg env req p b).2.stores := by
  cases handlePoll_end P cfg env req p b with
  | raised h => exact h ▸ .raised
  | unnamed h => exact h ▸ .of_answer _ (by simp [errorResponse])
  | @found _ _ a hsplit ha hne hq h =>
    cases hsplit.symm.trans hp
    obtain ⟨ho, hs⟩ := servePoll_spec env a b
    rw [h, hs]
    exact .polled hm hp ha hne hq ho
  | @halfRenewed _ _ a _ hsplit ha hne hq h =>
    cases hsplit.symm.trans hp
    rw [h, autoRegisterMailbox_stores]
    exact .halfPolled hm hp ha hne hq
  | @renewed _ _ a hsplit ha hne hq h =>
    cases hsplit.symm.trans hp
    obtain ⟨ho, hs⟩ := servePoll_spec env a (autoRegisterMailbox cfg env a b).2
    have hnone : (b.stores.entry a).queue = none := by simp [Stores.entry, Deques.queue, hq]
    rw [autoRegisterMailbox_stores, entry_autoRegisterStores, if_pos rfl, Entry.autoRegister,
      hnone] at ho
    rw [h, hs, autoRegisterMailbox_stores]
    exact .autoRegistered hm hp ha hne hq ho

/-! ### Dispatch -/

theorem serveGet_effect {path query : PyStr} (hm : req.method = lit "GET")
    (hp : Url.urlsplit P req.path = .ok (path, query)) :
    Effect P cfg env req p b.stores (serveGet P cfg env req path p b).1
      (serveGet P cfg env req path p b).2.stores := by
  unfold serveGet
  split_ifs with h1 h2 h3 h4
  · exact .read hm hp (by rw [h1]; decide)
  · simp only [handleTraffic, hp]
    exact .read hm hp (by rw [h2]; decide)
  · subst h3
    exact handlePoll_effect hm hp
  · exact .read hm hp h3
  · exact .of_answer _ (by simp [notFound, errorResponse])

theorem servePost_effect (hm : req.method = lit "POST") :
    Effect P cfg env req p b.stores (servePost P cfg env req p b).1
      (servePost P cfg env req p b).2.stores := by
  unfold servePost
  split_ifs with h1 h2
  · exact handleRegister_effect hm h1
  · exact handleSend_effect hm h2
  · exact .of_answer _ (by simp [notFound, errorResponse])

theorem serveDelete_effect (hm : req.method = lit "DELETE") :
    Effect P cfg env req p b.stores (serveDelete P env req p b).1
      (serveDelete P env req p b).2.stores := by
  unfold serveDelete
  split_ifs
  · exact handleDeregister_effect hm
  · exact .of_answer _ (by simp [notFound, errorResponse])

variable (P cfg) in
/-- What `_authenticate` makes of a GET, where `do_GET` asks it. -/
def getCredentials (req : Request) : Option AuthResult :=
  if req.path = healthPath then none
  else match Url.urlsplit P req.path with
    | .error _ => none
    | .ok (path, _) => some (authenticate P cfg (dashboardReadingPaths.contains path) req)

variable (P cfg) in
/-- What `_authenticate` makes of a request, where its handler asks it. -/
def credentials (req : Request) : Option AuthResult :=
  if req.method = lit "GET" then getCredentials P cfg req
  else if req.method = lit "POST" then some (authenticate P cfg false req)
  else if req.method = lit "DELETE" then some (authenticate P cfg false req)
  else none

variable (P cfg env req b) in
/-- How a request ends, by what `_authenticate` makes of it. -/
def Handled (o : Outcome) (b' : Broker) : Option AuthResult → Prop
  | none => b' = b ∧ (o.status? = some 501 ∨ (∃ e, o = .crash e)
      ∨ (req.method = lit "GET" ∧ req.path = healthPath))
  | some (.raises e) => o = .crash e ∧ b' = b
  | some (.denied detail) => o = .answer (errorResponse 401 detail) ∧ b' = b
  | some (.agent p) => Effect P cfg env req p b.stores o b'.stores

theorem withAgent_handled {allow : Bool} {k : PyStr → Broker → Outcome × Broker}
    (hk : ∀ p b', b'.stores = b.stores →
      Effect P cfg env req p b.stores (k p b').1 (k p b').2.stores) :
    Handled P cfg env req b (withAgent P cfg env allow req b k).1
      (withAgent P cfg env allow req b k).2 (some (authenticate P cfg allow req)) := by
  cases withAgent_end P cfg env req b allow k with
  | raised hauth h => exact hauth ▸ h ▸ ⟨rfl, rfl⟩
  | denied hauth h => exact hauth ▸ h ▸ ⟨rfl, rfl⟩
  | limited hauth _ h =>
    rw [hauth, h]
    exact .of_answer _ (by simp [rateLimitedResponse])
  | served hauth _ h =>
    rw [hauth, h]
    exact hk _ _ rfl

theorem doGET_handled (hm : req.method = lit "GET") :
    Handled P cfg env req b (doGET P cfg env req b).1 (doGET P cfg env req b).2
      (getCredentials P cfg req) := by
  unfold doGET getCredentials
  split_ifs with hhealth
  · exact ⟨rfl, .inr (.inr ⟨hm, hhealth⟩)⟩
  · rcases hp : Url.urlsplit P req.path with e | ⟨path, query⟩
    · exact ⟨rfl, .inr (.inl ⟨e, rfl⟩)⟩
    · exact withAgent_handled fun p b' hb => hb ▸ serveGet_effect hm hp

variable (P cfg) in
/-- Every request is turned away by authentication, or has one of the effects. -/
theorem handle_effect (env : Env) (req : Request) (b : Broker) :
    Handled P cfg env req b (handle P cfg env req b).1 (handle P cfg env req b).2
      (credentials P cfg req) := by
  unfold handle credentials
  by_cases hget : req.method = lit "GET"
  · rw [if_pos hget, if_pos hget]
    exact doGET_handled hget
  rw [if_neg hget, if_neg hget]
  by_cases hpost : req.method = lit "POST"
  · rw [if_pos hpost, if_pos hpost]
    exact withAgent_handled fun p b' hb => hb ▸ servePost_effect hpost
  rw [if_neg hpost, if_neg hpost]
  by_cases hdelete : req.method = lit "DELETE"
  · rw [if_pos hdelete, if_pos hdelete]
    exact withAgent_handled fun p b' hb => hb ▸ serveDelete_effect hdelete
  rw [if_neg hdelete, if_neg hdelete]
  exact ⟨rfl, .inl rfl⟩

end AgentComm
