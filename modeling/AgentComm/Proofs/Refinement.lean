import AgentComm.Lib.Lts
import AgentComm.Proofs.Effects
import AgentComm.Table

/-!
# The stores refine the table

With whole requests and whole sweeps run one at a time, the stores hold a table, and every step
is a step of the table (`TableStep`, `Table.evict`).
-/

namespace AgentComm

open Lib

variable (P : Python) (cfg : ServerConfig)

/-- What a request makes of the table, by how it is answered. -/
inductive TableStep (env : Env) (req : Request) (T : Table) : Outcome → Table → Prop
  | rejected {o status} (ho : o.status? = some status) (hs : 400 ≤ status) :
      TableStep env req T o T
  | raised {e} : TableStep env req T (.crash e) T
  /-- a GET that is no poll -/
  | read {o} (hm : req.method = lit "GET")
      (hp : ∀ query, Url.urlsplit P req.path ≠ .ok (defaultMessagePath, query)) :
      TableStep env req T o T
  | routed {o raw m a r} (hm : req.method = lit "POST") (hp : req.path = defaultMessagePath)
      (hraw : readBody P cfg req = .text raw) (hmsg : deserialize P raw = .ok m)
      (hto : m.metadata.recipient = .str a) (hr : T a = some r)
      (hbox : r.endpoint.mailbox = false) : TableStep env req T o T
  | queued {o raw m a r} (hm : req.method = lit "POST") (hp : req.path = defaultMessagePath)
      (hraw : readBody P cfg req = .text raw) (hmsg : deserialize P raw = .ok m)
      (hto : m.metadata.recipient = .str a) (hr : T a = some r)
      (hbox : r.endpoint.mailbox = true) (ho : o.Serves 202) :
      TableStep env req T o (T.send a (serialize P m))
  | registered {o raw data p r} (hm : req.method = lit "POST") (hp : req.path = lit "/agents")
      (hc : credentials P cfg req = some (.agent p))
      (hraw : readBody P cfg req = .text raw) (hdata : P.jsonLoads raw = .ok (.obj data))
      (hr : validateRegisterPayload data p = .ok r)
      (ho : o.Serves (if (T r.agentId).isNone then 201 else 200)) :
      TableStep env req T o
        (T.register env.monotonic.register cfg.defaultTtlSeconds r.endpoint r.caps r.ttl)
  | removed {o a} (hm : req.method = lit "DELETE") (ha : parseAgentIdFromPath P req.path = .ok a)
      (hne : a ≠ []) (ho : o.Serves 204) : TableStep env req T o (T.remove a)
  | polled {o query p a} (hm : req.method = lit "GET")
      (hp : Url.urlsplit P req.path = .ok (defaultMessagePath, query))
      (hc : credentials P cfg req = some (.agent p)) (ha : a = pollId P p query) (hne : a ≠ [])
      (ho : o.Serves 200) :
      TableStep env req T o (T.poll env.monotonic.heartbeat cfg.defaultTtlSeconds a)
  /-- a poll whose log raised between the registration and the heartbeat -/
  | halfPolled {e query p a} (hm : req.method = lit "GET")
      (hp : Url.urlsplit P req.path = .ok (defaultMessagePath, query))
      (hc : credentials P cfg req = some (.agent p)) (ha : a = pollId P p query) (hne : a ≠ [])
      (hq : T.queue a = none) :
      TableStep env req T (.crash e)
        (T.openMailbox env.monotonic.register cfg.defaultTtlSeconds a)

theorem Outcome.Serves.status {o : Outcome} {status status' : ℕ} (h : o.Serves status)
    (hs : o.status? = some status') : status' = status := by
  rcases h with h | ⟨e, rfl⟩
  · rw [h] at hs
    exact (Option.some.inj hs).symm
  · cases hs

variable {P cfg} {env : Env} {req : Request}

/-- A request that is turned down changes no record. -/
theorem TableStep.of_rejected {T T' : Table} {o : Outcome} (h : TableStep P cfg env req T o T')
    {status : ℕ} (ho : o.status? = some status) (hs : 400 ≤ status) : T' = T := by
  cases h with
  | rejected | raised | read | routed => rfl
  | queued _ _ _ _ _ _ _ ho' | removed _ _ _ ho' | polled _ _ _ _ _ ho' =>
    have := ho'.status ho
    omega
  | registered _ _ _ _ _ _ ho' =>
    have := ho'.status ho
    split_ifs at this <;> omega
  | halfPolled => cases ho

variable {s s' : Stores} {T : Table}

namespace Refines

theorem isNew (h : Refines s T) (a : PyStr) : s.isNew a = (T a).isNone := by
  change (s.entry a).endpoint.isNone = _
  rcases hr : T a with _ | r
  · rw [h.of_none hr]
    rfl
  · rw [h.of_some hr]
    rfl

theorem send (h : Refines s T) {a : PyStr} {r : Record} (hr : T a = some r) (m : PyStr) :
    Refines (s.enqueue a m) (T.send a m) := by
  refine h.update ?_ fun b hb => ?_
  · rw [Stores.entry_enqueue, if_pos rfl, h.of_some hr, hr]
    rfl
  · rw [Stores.entry_enqueue, if_neg hb]

theorem remove (h : Refines s T) (a : PyStr) : Refines (removeStores a s) (T.remove a) := by
  refine h.update ?_ fun b hb => ?_
  · rw [entry_removeStores, if_pos rfl]
    rfl
  · rw [entry_removeStores, if_neg hb]

theorem register (h : Refines s T) (now : ℚ) (r : Registration) :
    Refines (registerStores cfg now r (s.isNew r.agentId) s)
      (T.register now cfg.defaultTtlSeconds r.endpoint r.caps r.ttl) := by
  refine h.update (a := r.agentId) ?_ fun b hb => ?_
  · have httl : (r.ttlToSet cfg (s.isNew r.agentId)).or (s.entry r.agentId).ttl
        = some (r.ttl.getD ((T r.agentId).elim cfg.defaultTtlSeconds Record.ttl)) := by
      rw [h.isNew]
      rcases hr : T r.agentId with _ | x
      · cases hset : r.ttl <;> simp [Registration.ttlToSet, hset]
      · rw [h.of_some hr]
        cases hset : r.ttl <;> simp [Registration.ttlToSet, hset, Record.entry]
    rw [entry_registerStores, if_pos rfl, Entry.register, httl, h.queue]
    rfl
  · rw [entry_registerStores, if_neg hb]

variable (cfg) in
theorem openMailbox (h : Refines s T) (now : ℚ) {a : PyStr} (hq : T.queue a = none) :
    Refines (autoRegisterStores cfg now a s) (T.openMailbox now cfg.defaultTtlSeconds a) := by
  refine h.update ?_ fun b hb => ?_
  · rw [entry_autoRegisterStores, if_pos rfl, Entry.autoRegister, h.queue, hq]
    rcases hr : T a with _ | x
    · rw [h.of_none hr]
      rfl
    · rw [h.of_some hr]
      rfl
  · rw [entry_autoRegisterStores, if_neg hb]

theorem fetch (h : Refines s T) (now : ℚ) {a : PyStr} (hq : (T.queue a).isSome) :
    Refines ((s.pollHeartbeat a now).takeAll a)
      (Function.update T a ((T a).map (Record.fetch now))) := by
  obtain ⟨q, hq⟩ := Option.isSome_iff_exists.1 hq
  obtain ⟨r, hr, hq⟩ := Option.bind_eq_some_iff.1 hq
  refine h.update ?_ fun b hb => ?_
  · rw [entry_takeAll, if_pos rfl, Stores.entry_pollHeartbeat, h.of_some hr, if_pos ⟨rfl, rfl⟩, hr]
    simp only [Record.entry, hq, Option.map_some, Option.elim_some, Record.fetch]
  · rw [entry_takeAll, if_neg hb, Stores.entry_pollHeartbeat, if_neg fun hc => hb hc.1]

theorem poll_some (h : Refines s T) (now : ℚ) {a : PyStr} (hq : (T.queue a).isSome)
    (default : ℤ) :
    Refines ((s.pollHeartbeat a now).takeAll a) (T.poll now default a) := by
  rw [Table.poll, if_pos hq]
  exact h.fetch now hq

theorem poll_none (h : Refines s T) (now now' : ℚ) {a : PyStr} (hq : T.queue a = none) :
    Refines (((autoRegisterStores cfg now a s).pollHeartbeat a now').takeAll a)
      (T.poll now' cfg.defaultTtlSeconds a) := by
  have hopen := h.openMailbox cfg now hq
  have hqueue : ((T.openMailbox now cfg.defaultTtlSeconds a).queue a).isSome := by
    simp [Table.openMailbox, Table.queue]
  have hfetch := hopen.fetch now' hqueue
  have htable : Function.update (T.openMailbox now cfg.defaultTtlSeconds a) a
      ((T.openMailbox now cfg.defaultTtlSeconds a a).map (Record.fetch now'))
      = T.poll now' cfg.defaultTtlSeconds a := by
    rw [Table.poll, if_neg (by simp [hq])]
    simp [Table.openMailbox, Record.fetch]
  rwa [htable] at hfetch

theorem evict (h : Refines s T) (now : ℚ) :
    Refines (sweepOnce cfg now s) (T.evict (Record.dead cfg now)) := by
  intro a
  rw [entry_sweepOnce, Table.evict]
  rcases hr : T a with _ | r
  · rw [h.of_none hr]
    rfl
  · rw [h.of_some hr]
    by_cases hd : r.dead cfg now
    · have hx : expired cfg now r.heartbeat r.ttl r.endpoint.mailbox = true := hd
      simp only [Record.entry, Entry.sweep, hx, if_true, Option.filter, hd, Bool.not_true,
        if_false, Bool.false_eq_true, Option.elim_none]
    · have hx : ¬ expired cfg now r.heartbeat r.ttl r.endpoint.mailbox = true := hd
      simp only [Record.entry, Entry.sweep, if_neg hx, Option.filter, hd, Bool.not_false,
        if_true, Option.elim_some]

theorem of_effect (h : Refines s T) {p : PyStr} (hc : credentials P cfg req = some (.agent p))
    {o : Outcome} (heffect : Effect P cfg env req p s o s') :
    ∃ T', Refines s' T' ∧ TableStep P cfg env req T o T' := by
  have hqueue : ∀ a, (s.mailboxes.ref? a).isSome = (T.queue a).isSome := by
    intro a
    rw [← h.queue, ← s.mailboxes.queue_isSome]
    rfl
  cases heffect with
  | refused ho hs => exact ⟨T, h, .rejected ho hs⟩
  | raised => exact ⟨T, h, .raised⟩
  | read hm hp hne =>
    refine ⟨T, h, .read hm fun query hq => ?_⟩
    rw [hp] at hq
    cases hq
    exact hne rfl
  | routed hm hp hraw hmsg hto he hbox =>
    obtain ⟨r, hr, rfl⟩ := h.exists_record he
    exact ⟨T, h, .routed hm hp hraw hmsg hto hr hbox⟩
  | enqueued hm hp hraw hmsg _ hto he hbox ho =>
    obtain ⟨r, hr, rfl⟩ := h.exists_record he
    exact ⟨_, h.send hr _, .queued hm hp hraw hmsg hto hr hbox ho⟩
  | registered hm hp hraw hdata hr _ ho =>
    refine ⟨_, h.register _ _, .registered hm hp hc hraw hdata hr ?_⟩
    rwa [h.isNew] at ho
  | removed hm ha hne _ ho => exact ⟨_, h.remove _, .removed hm ha hne ho⟩
  | polled hm hp ha hne hq ho =>
    rw [hqueue] at hq
    exact ⟨_, h.poll_some _ hq _, .polled hm hp hc ha hne ho.serves⟩
  | @autoRegistered _ _ a hm hp ha hne hq ho =>
    have hq' : T.queue a = none := by simpa [hq] using (hqueue a).symm
    exact ⟨_, h.poll_none _ _ hq', .polled hm hp hc ha hne ho.serves⟩
  | @halfPolled _ _ a hm hp ha hne hq =>
    have hq' : T.queue a = none := by simpa [hq] using (hqueue a).symm
    exact ⟨_, h.openMailbox cfg _ hq', .halfPolled hm hp hc ha hne hq'⟩

variable (P cfg) in
theorem handle {b : Broker} (h : Refines b.stores T) (env : Env) (req : Request) :
    ∃ T', Refines (handle P cfg env req b).2.stores T'
      ∧ TableStep P cfg env req T (handle P cfg env req b).1 T' := by
  have hhandled := handle_effect P cfg env req b
  rcases hc : credentials P cfg req with _ | ⟨p⟩ | ⟨detail⟩ | ⟨e⟩ <;> rw [hc] at hhandled
  · obtain ⟨hb, h501 | ⟨e, he⟩ | ⟨hm, hp⟩⟩ := hhandled <;> rw [hb] <;> refine ⟨T, h, ?_⟩
    · exact .rejected h501 (by decide)
    · rw [he]
      exact .raised
    · refine .read hm fun query hq => ?_
      have hsplit : Url.urlsplit P healthPath = .ok (healthPath, []) := rfl
      rw [hp, hsplit] at hq
      cases hq
  · exact h.of_effect hc hhandled
  · obtain ⟨ho, hb⟩ := hhandled
    rw [hb, ho]
    exact ⟨T, h, .rejected rfl (by simp [errorResponse])⟩
  · obtain ⟨ho, hb⟩ := hhandled
    rw [hb, ho]
    exact ⟨T, h, .raised⟩

end Refines

/-! ### Runs -/

/-- What runs as a whole, with nothing else in between. -/
inductive SerialAction
  | request (env : Env) (req : Request)
  | sweep (now : ℚ)

variable (P cfg) in
/-- Whole requests and whole sweeps, one at a time. -/
def serialLts : Lts Broker SerialAction Outcome where
  step b
    | .request env req => some ((handle P cfg env req b).2, [(handle P cfg env req b).1])
    | .sweep now => some ({ b with stores := sweepOnce cfg now b.stores }, [])

/-- The brokers that whole requests and whole sweeps lead to. -/
abbrev Served (P : Python) (cfg : ServerConfig) (b : Broker) : Prop :=
  (serialLts P cfg).Reachable Broker.init b

theorem Served.refines {b : Broker} (h : Served P cfg b) : ∃ T, Refines b.stores T := by
  obtain ⟨tr, h⟩ := h
  refine h.invariant (I := fun _ b => ∃ T, Refines b.stores T) ⟨_, Refines.empty⟩ ?_
  rintro tr b act b' es ⟨T, hT⟩ - hs
  cases act with
  | request env req =>
    cases hs
    obtain ⟨T', hT', -⟩ := hT.handle P cfg env req
    exact ⟨T', hT'⟩
  | sweep now =>
    cases hs
    exact ⟨_, hT.evict now⟩

/-- In every broker reached the five stores know the same agents, and they hold a table of which
each request and each sweep is a step: a request turned down changes no record, and a sweep takes
out the records that are dead. -/
theorem stores_refine_table {b : Broker} (h : Served P cfg b) :
    b.stores.Aligned ∧ ∃ T, Refines b.stores T
      ∧ (∀ env req, ∃ T', Refines (handle P cfg env req b).2.stores T'
        ∧ TableStep P cfg env req T (handle P cfg env req b).1 T'
        ∧ ∀ status, (handle P cfg env req b).1.status? = some status → 400 ≤ status → T' = T)
      ∧ ∀ now, Refines (sweepOnce cfg now b.stores) (T.evict (Record.dead cfg now)) := by
  obtain ⟨T, hT⟩ := h.refines
  refine ⟨hT.aligned, T, hT, fun env req => ?_, fun now => hT.evict now⟩
  obtain ⟨T', hT', hstep⟩ := hT.handle P cfg env req
  exact ⟨T', hT', hstep, fun _ => hstep.of_rejected⟩

def postJson (path : PyStr) (body : Json) : Request :=
  ⟨lit "POST", path, none, some (lit (toString (jsonText body).length)),
    (jsonText body).map UInt8.ofNat⟩

/-- Everything a request meets at one instant, with no network. -/
def instant (now : ℚ) : Env :=
  ⟨⟨now, now, now, now, now⟩, now, ⟨[], []⟩, fun _ => .raises ⟨.osError, []⟩⟩

/-- A mailbox agent registers. -/
def mailboxPayload : Json := .obj [(lit "agent_id", .str (lit "a")), (lit "mailbox", .bool true)]

def mailboxPython : Python := plainPython [(jsonText mailboxPayload, mailboxPayload)]

def mailboxBroker : Broker :=
  (handle mailboxPython .defaults (instant 0) (postJson (lit "/agents") mailboxPayload)
    Broker.init).2

theorem mailboxBroker_served : Served mailboxPython .defaults mailboxBroker :=
  ⟨_, .single (a := .request (instant 0) (postJson (lit "/agents") mailboxPayload)) trivial rfl⟩

theorem stores_refine_table_registered :
    mailboxBroker.stores.registry.get? (lit "a") = some (Entry.mailboxEndpoint (lit "a"))
    ∧ mailboxBroker.stores.Aligned ∧ ∃ T, Refines mailboxBroker.stores T
      ∧ (∀ env req, ∃ T', Refines (handle mailboxPython .defaults env req mailboxBroker).2.stores T'
        ∧ TableStep mailboxPython .defaults env req T
          (handle mailboxPython .defaults env req mailboxBroker).1 T'
        ∧ ∀ status, (handle mailboxPython .defaults env req mailboxBroker).1.status? = some status →
          400 ≤ status → T' = T)
      ∧ ∀ now, Refines (sweepOnce .defaults now mailboxBroker.stores)
        (T.evict (Record.dead .defaults now)) := by
  have hregistered : mailboxBroker.stores.registry.get? (lit "a")
      = some (Entry.mailboxEndpoint (lit "a")) := by decide +kernel
  exact ⟨hregistered, stores_refine_table mailboxBroker_served⟩

end AgentComm
