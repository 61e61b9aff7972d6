import AgentComm.Proofs.Admission
import AgentComm.Proofs.Contract
import AgentComm.Proofs.Inboxes
import AgentComm.Proofs.Schema
import AgentComm.Transport.Discovery

/-!
# Registration and discovery through a broker

What a client registers is what the broker files, and what the broker lists is what a client
discovers: an agent that has registered is found, with what it advertises, until it registers anew,
is taken out or is swept away.
-/

namespace AgentComm

open Lib BrokeredRegistry

variable {P : Python} {cfg : ServerConfig} {env : Env} {b : Broker} {p a : PyStr}
variable {e : Endpoint} {caps : Option Fields} {token : Option PyStr}

/-! ### Registering -/

/-- The endpoint a broker files for one that is registered: a mailbox agent need not have an
address. -/
def Endpoint.filed (e : Endpoint) : Endpoint :=
  { e with
    host := if e.mailbox ∧ e.host = [] then lit "mailbox" else e.host
    port := if e.mailbox ∧ ¬ (1 ≤ e.port ∧ e.port ≤ 65535) then 0 else e.port }

/-- A body a client registers with is a registration just when its endpoint is within limits. -/
theorem registrable_registerBody : Registrable Json.asInt? p (registerBody e caps)
    ↔ e.WellFormed ∧ (p ≠ [] → e.agentId = p) := by
  have hscheme : Pairs.get? (lit "scheme") (registerBody e caps) = some (.str e.scheme) := rfl
  have hpath : Pairs.get? (lit "path") (registerBody e caps) = some (.str e.path) := rfl
  have hcaps : Pairs.get? (lit "capabilities") (registerBody e caps)
      = some (.obj (caps.getD [])) := rfl
  have httl : Pairs.get? (lit "ttl_seconds") (registerBody e caps) = none := rfl
  constructor
  · rintro ⟨⟨a, ha, hne, hlen, hid⟩, hhost, hport, hs, ht, -, -⟩
    obtain rfl : e.agentId = a := Json.str.inj ha
    refine ⟨⟨hne, hlen, ?_, ?_, fun hbox => ?_, fun hbox => ?_⟩, hid⟩
    · simpa using hs _ hscheme
    · obtain ⟨t, ht⟩ := ht _ hpath
      rw [Json.str.inj ht]
      rfl
    · obtain ⟨h, hh, hlen⟩ := hhost hbox
      obtain rfl : e.host = h := Json.str.inj hh
      exact hlen
    · obtain ⟨n, hn, hrange⟩ := hport hbox
      obtain rfl : e.port = n := Option.some.inj hn
      exact hrange
  · rintro ⟨h, hid⟩
    refine ⟨⟨e.agentId, rfl, h.named, h.short, hid⟩, fun hbox => ⟨e.host, rfl, h.host hbox⟩,
      fun hbox => ⟨e.port, rfl, h.port hbox⟩, fun v hv => ?_, fun v hv => ?_, fun v hv => ?_,
      fun v hv => ?_⟩
    · rw [hscheme, Option.some.injEq] at hv
      simpa [← hv] using h.scheme
    · rw [hpath, Option.some.injEq] at hv
      obtain ⟨t, ht⟩ := List.head?_eq_some_iff.1 h.path
      exact ⟨t, by rw [← hv, ht]⟩
    · rw [hcaps, Option.some.injEq] at hv
      exact ⟨_, hv.symm⟩
    · rw [httl] at hv
      cases hv

theorem checkHost_str {host h : PyStr} (hh : checkHost a (.str host) = .ok h) : h = host := by
  rcases host with _ | ⟨c, host⟩ <;> simp only [checkHost] at hh
  · cases hh
  · split_ifs at hh
    exact (Except.ok.inj hh).symm

theorem checkPort_int {port n : ℤ} (hn : checkPort a (.int port) = .ok n) : n = port := by
  simp only [checkPort, Json.asInt?] at hn
  split_ifs at hn
  exact (Except.ok.inj hn).symm

theorem checkScheme_str {scheme x : PyStr} (hx : checkScheme a (some (.str scheme)) = .ok x) :
    x = scheme := by
  simp only [checkScheme] at hx
  split_ifs at hx
  exact (Except.ok.inj hx).symm

theorem checkPath_str {path x : PyStr} (hx : checkPath a (some (.str path)) = .ok x) :
    x = path := by
  unfold checkPath at hx
  split at hx
  · rename_i heq
    cases heq
  · rename_i heq
    rw [Option.some.injEq, Json.str.injEq] at heq
    exact (Except.ok.inj hx).symm.trans heq.symm
  · cases hx

theorem mailboxAddress_eq (host : PyStr) (port : ℤ) : mailboxAddress (.str host) (.int port)
    = (if host = [] then lit "mailbox" else host, if 1 ≤ port ∧ port ≤ 65535 then port else 0) := by
  rcases host with _ | ⟨c, host⟩ <;> rfl

/-- The address that is accepted is the one filed. -/
theorem checkAddress_filed {host : PyStr} {port : ℤ}
    (h : checkAddress e.mailbox a (.str e.host) (.int e.port) = .ok (host, port)) :
    host = e.filed.host ∧ port = e.filed.port := by
  unfold checkAddress at h
  unfold Endpoint.filed
  cases hbox : e.mailbox with
  | true =>
    simp only [hbox, if_true, mailboxAddress_eq, Except.ok.injEq, Prod.mk.injEq] at h
    simp only [true_and, ite_not]
    exact ⟨h.1.symm, h.2.symm⟩
  | false =>
    simp only [hbox, Bool.false_eq_true, if_false] at h
    obtain ⟨x, hx, h⟩ := bind_eq_ok h
    obtain ⟨n, hn, h⟩ := bind_eq_ok h
    cases h
    simp only [Bool.false_eq_true, false_and, if_false]
    exact ⟨checkHost_str hx, checkPort_int hn⟩

/-- What is accepted of a body is the endpoint, with what is advertised, and no TTL. -/
theorem validate_registerBody {r : Registration}
    (h : validateRegisterPayload (registerBody e caps) p = .ok r) :
    r = ⟨e.filed, caps.getD [], none⟩ := by
  obtain ⟨x, hx, h⟩ := bind_eq_ok h
  obtain ⟨_, -, h⟩ := bind_eq_ok h
  obtain ⟨⟨host, port⟩, haddress, h⟩ := bind_eq_ok h
  obtain ⟨scheme, hscheme, h⟩ := bind_eq_ok h
  obtain ⟨path, hpath, h⟩ := bind_eq_ok h
  obtain ⟨got, hgot, h⟩ := bind_eq_ok h
  obtain ⟨ttl, httl, h⟩ := bind_eq_ok h
  have hid : e.agentId = x := Json.str.inj (checkAgentId_iff.1 hx).1
  have hcaps : caps.getD [] = got := Except.ok.inj hgot
  have hnone : none = ttl := Except.ok.inj httl
  obtain rfl := checkScheme_str hscheme
  obtain rfl := checkPath_str hpath
  obtain ⟨rfl, rfl⟩ := checkAddress_filed haddress
  rw [← hid, ← hcaps, ← hnone] at h
  cases h
  rfl

variable (P cfg env b token e caps p) in
/-- The broker takes up the registration: it lets the client in as `p`, and reads what it sends. -/
structure TakesUp : Prop where
  admitted : Admitted P cfg env (registerRequest P token e caps) b p
  conveyed : Conveys P (.obj (registerBody e caps))
  fits : ((registerRequest P token e caps).body.length : ℤ) ≤ cfg.maxBodySize

/-- A registration the broker takes up gets to the check of its payload. -/
theorem TakesUp.checked (h : TakesUp P cfg env b p e caps token) :
    ∃ b', b'.stores = b.stores ∧ handle P cfg env (registerRequest P token e caps) b
      = match validateRegisterPayload (registerBody e caps) p with
        | .error r => reject env b' r
        | .ok r => acceptRegistration cfg env b' r := by
  have hmeasured : Measured P cfg (registerRequest P token e caps) :=
    ⟨h.conveyed.measured, h.fits⟩
  have hraw : readBody P cfg (registerRequest P token e caps)
      = .text (P.jsonDumps (.obj (registerBody e caps))) := by
    rw [readBody_measured hmeasured, show P.utf8Decode (registerRequest P token e caps).body = _
      from h.conveyed.sent]
  have hpost : (registerRequest P token e caps).method = lit "POST" := rfl
  rcases post_cases P cfg env b hpost with ⟨hnone, -⟩ | ⟨q, b', -, hone, hs, -, hserve⟩
  · exact absurd h.admitted (hnone p)
  · have hpath : (registerRequest P token e caps).path = lit "/agents" := rfl
    refine ⟨b', hs, ?_⟩
    rw [hserve, servePost, if_pos hpath, ← hone p h.admitted]
    refine (handleRegister_object hraw h.conveyed.read).trans ?_
    rcases validateRegisterPayload (registerBody e caps) p with r | r <;> rfl

variable (e p) in
/-- The registration is one that `p` may make, of an endpoint within limits. -/
def OwnEndpoint : Prop := e.WellFormed ∧ (p ≠ [] → e.agentId = p)

theorem ownEndpoint_iff :
    OwnEndpoint p e ↔ ∃ r, validateRegisterPayload (registerBody e caps) p = .ok r :=
  (validateRegisterPayload_accepts.trans registrable_registerBody).symm

/-- It is filed under the agent's id. -/
theorem TakesUp.filed (h : TakesUp P cfg env b p e caps token) (hown : OwnEndpoint p e) :
    (handle P cfg env (registerRequest P token e caps) b).2.stores
      = registerStores cfg env.monotonic.register ⟨e.filed, caps.getD [], none⟩
        (b.stores.isNew e.agentId) b.stores := by
  obtain ⟨b', hs, hhandle⟩ := h.checked
  obtain ⟨r, hr⟩ := ownEndpoint_iff.1 hown
  rw [hhandle, hr]
  obtain rfl := validate_registerBody hr
  simp only [acceptRegistration_stores, hs]
  rfl

theorem TakesUp.entry (h : TakesUp P cfg env b p e caps token) (hown : OwnEndpoint p e) :
    (handle P cfg env (registerRequest P token e caps) b).2.stores.entry e.agentId
      = (b.stores.entry e.agentId).register env.monotonic.register e.filed (caps.getD [])
        (if b.stores.isNew e.agentId then some cfg.defaultTtlSeconds else none) := by
  have hid : Registration.agentId ⟨e.filed, caps.getD [], none⟩ = e.agentId := rfl
  rw [h.filed hown, entry_registerStores, if_pos hid]
  rfl

/-- The other agents are as they were. -/
theorem TakesUp.others (h : TakesUp P cfg env b p e caps token) (hown : OwnEndpoint p e)
    (ha : a ≠ e.agentId) :
    (handle P cfg env (registerRequest P token e caps) b).2.stores.entry a = b.stores.entry a := by
  have hid : Registration.agentId ⟨e.filed, caps.getD [], none⟩ = e.agentId := rfl
  rw [h.filed hown, entry_registerStores, hid, if_neg ha.symm]

/-- Any other changes nothing. -/
theorem TakesUp.refused (h : TakesUp P cfg env b p e caps token) (hown : ¬ OwnEndpoint p e) :
    (handle P cfg env (registerRequest P token e caps) b).2.stores = b.stores := by
  obtain ⟨b', hs, hhandle⟩ := h.checked
  rcases hr : validateRegisterPayload (registerBody e caps) p with r | r
  · rw [hhandle, hr]
    exact (answerThenLog_stores _ _ _).trans hs
  · exact absurd (ownEndpoint_iff.2 ⟨r, hr⟩) hown

/-- What a client registers is what the broker files, if the client may register it and it is
within limits; if not, nothing changes. -/
theorem registration_round_trip (h : TakesUp P cfg env b p e caps token) :
    (OwnEndpoint p e →
      (handle P cfg env (registerRequest P token e caps) b).2.stores.entry e.agentId
        = (b.stores.entry e.agentId).register env.monotonic.register e.filed (caps.getD [])
          (if b.stores.isNew e.agentId then some cfg.defaultTtlSeconds else none)
      ∧ ∀ a, a ≠ e.agentId →
        (handle P cfg env (registerRequest P token e caps) b).2.stores.entry a = b.stores.entry a)
    ∧ (¬ OwnEndpoint p e →
      (handle P cfg env (registerRequest P token e caps) b).2.stores = b.stores) :=
  ⟨fun hown => ⟨h.entry hown, fun _ => h.others hown⟩, h.refused⟩

/-! ### Discovering -/

variable (P cfg env b token p) in
/-- The broker answers the client's `GET /agents` with its list, which arrives. -/
structure ListsTo : Prop where
  authenticated : authenticate P cfg true (agentsRequest token) = .agent p
  passed : (checkRateLimit cfg env.monotonic (rateKey p) b.rateBuckets).1 = true
  conveyed : Conveys P (.obj (Listing.agentsFields b.stores env.monotonic.discovery))

/-- What the client gets is the list. -/
theorem ListsTo.answer (h : ListsTo P cfg env b p token) :
    (handle P cfg env (agentsRequest token) b).1.httpAnswer P
      = (Listing.agents b.stores env.monotonic.discovery).http P := by
  have hhealth : (agentsRequest token).path ≠ healthPath := by
    show lit "/agents" ≠ healthPath
    decide
  have hsplit : Url.urlsplit P (agentsRequest token).path = .ok (lit "/agents", []) := rfl
  have hreads : dashboardReadingPaths.contains (lit "/agents") = true := by decide
  have hget : (agentsRequest token).method = lit "GET" := rfl
  simp only [handle, if_pos hget, doGET, if_neg hhealth, hsplit, hreads, withAgent,
    h.authenticated, h.passed, if_true, serveGet]
  rfl

theorem agentEntries_agents {s : Stores} {now : ℚ}
    (h : Conveys P (.obj (Listing.agentsFields s now))) :
    agentEntries P ((Listing.agents s now).http P) = .ok (discover s now) := by
  have hkept : ((discover s now).map Json.obj).filterMap objectEntry = discover s now := by
    rw [List.filterMap_map]
    exact List.filterMap_some
  simp only [agentEntries, Listing.http, request_fields h]
  exact congrArg Except.ok hkept

variable (P) in
/-- The names in the list, and what is advertised under them. -/
theorem discoverAgents_agents {s : Stores} {now : ℚ}
    (h : Conveys P (.obj (Listing.agentsFields s now))) :
    discoverAgents P ((Listing.agents s now).http P)
      = .ok (s.capabilities.entries.map fun x => ⟨x.1, x.2⟩) := by
  simp only [discoverAgents, agentEntries_agents h, discover, List.map_map, bind, Except.bind]
  rfl

theorem listAgents_agents {s : Stores} {now : ℚ} (port : ℤ)
    (h : Conveys P (.obj (Listing.agentsFields s now))) :
    listAgents P port ((Listing.agents s now).http P)
      = .ok (s.capabilities.entries.map fun x =>
        { agentId := x.1, host := lit "broker", port := port }) := by
  simp only [listAgents, agentEntries_agents h, discover, List.map_map, bind, Except.bind]
  rfl

/-- What the three ways to ask a broker for its agents come to: they agree with each other, and
with what has registered. -/
structure Found (P : Python) (s : Stores) (port : ℤ) (answer : HttpAnswer)
    (infos : List AgentInfo) : Prop where
  discovered : discoverAgents P answer = .ok infos
  once : (infos.map AgentInfo.agentId).Nodup
  advertised : ∀ a caps, ⟨a, caps⟩ ∈ infos ↔ (s.entry a).capabilities = some caps
  registered : ∀ a, a ∈ infos.map AgentInfo.agentId ↔ (s.registry.get? a).isSome
  listed : listAgents P port answer = .ok (infos.map fun i =>
    { agentId := i.agentId, host := lit "broker", port := port })
  lookedUp : ∀ a, lookup P port answer (.str a) = if a ∈ infos.map AgentInfo.agentId then
    .ok ⟨.str a, lit "broker", port⟩ else .error (Registry.unknownAgent P (.str a))

theorem found_aligned {s : Stores} {now : ℚ} (port : ℤ) (hs : s.Aligned)
    (h : Conveys P (.obj (Listing.agentsFields s now))) :
    Found P s port ((Listing.agents s now).http P)
      (s.capabilities.entries.map fun x => ⟨x.1, x.2⟩) := by
  have hids : (s.capabilities.entries.map fun x => (⟨x.1, x.2⟩ : AgentInfo)).map
      AgentInfo.agentId = s.capabilities.entries.map Prod.fst := by
    rw [List.map_map]
    rfl
  have hmem : ∀ a, a ∈ s.capabilities.entries.map Prod.fst ↔ (s.capabilities.get? a).isSome :=
    fun a => Dict.contains_iff.symm
  refine ⟨discoverAgents_agents P h, hids ▸ s.capabilities.nodup, fun a caps => ?_, fun a => ?_,
    (listAgents_agents port h).trans (by rw [List.map_map]; rfl), fun a => ?_⟩
  · rw [List.mem_map]
    constructor
    · rintro ⟨⟨x, got⟩, he, hx⟩
      cases hx
      exact Dict.mem_entries.1 he
    · intro hc
      exact ⟨(a, caps), Dict.mem_entries.2 hc, rfl⟩
  · rw [hids, hmem, hs.capabilities]
  · rw [lookup_agents h, hids]
    have hlists : ((discover s now).map .obj).any (entryFor (.str a)) = true
        ↔ a ∈ s.capabilities.entries.map Prod.fst := by
      rw [any_entryFor, hmem]
      constructor
      · rintro ⟨x, hx, hl⟩
        exact Json.str.inj hx ▸ hl
      · exact fun hc => ⟨a, rfl, hc⟩
    simp only [hlists]

/-- What a client gets of a table that is kept in order. -/
theorem ListsTo.found (h : ListsTo P cfg env b p token) (hs : b.stores.Aligned) (port : ℤ) :
    Found P b.stores port ((handle P cfg env (agentsRequest token) b).1.httpAnswer P)
      (b.stores.capabilities.entries.map fun x => ⟨x.1, x.2⟩) := by
  rw [h.answer]
  exact found_aligned port hs h.conveyed

theorem Served.aligned (h : Served P cfg b) : b.stores.Aligned := by
  obtain ⟨T, hT⟩ := h.refines
  exact hT.aligned

/-- In every served broker a client discovers exactly the agents that are registered, each once,
with what it advertises. -/
theorem discovery_agrees (h : Served P cfg b) (port : ℤ) (hlist : ListsTo P cfg env b p token) :
    ∃ infos, Found P b.stores port
      ((handle P cfg env (agentsRequest token) b).1.httpAnswer P) infos :=
  ⟨_, hlist.found h.aligned port⟩

/-! ### Being found -/

variable (P cfg p a) in
/-- It is no registration of `a` or removal of it that is accepted of a client known as `p`. -/
def Unconcerned (req : Request) : Prop :=
  ¬ (∃ raw data r, req.method = lit "POST" ∧ req.path = lit "/agents"
      ∧ readBody P cfg req = .text raw ∧ P.jsonLoads raw = .ok (.obj data)
      ∧ validateRegisterPayload data p = .ok r ∧ r.agentId = a)
    ∧ ¬ (req.method = lit "DELETE" ∧ parseAgentIdFromPath P req.path = .ok a ∧ (p ≠ [] → a = p))

variable (P cfg a) in
/-- Nothing that is let in registers `a` or removes it, and it is not swept away. -/
def LeftAlone (b : Broker) : SerialAction → Prop
  | .request env req => ∀ p, credentials P cfg req = some (.agent p) →
    LetIn cfg b.rateBuckets [(p, env)] → Unconcerned P cfg p a req
  | .sweep now => (sweepOnce cfg now b.stores).entry a ≠ .blank

/-- What is advertised stays. -/
theorem Effect.capabilities {req : Request} {s s' : Stores} {o : Outcome} {fields : Fields}
    (h : Effect P cfg env req p s o s') (hreq : Unconcerned P cfg p a req)
    (hs : (s.entry a).capabilities = some fields) : (s'.entry a).capabilities = some fields := by
  cases h with
  | refused | raised | read | routed => exact hs
  | enqueued =>
    rw [Stores.entry_enqueue]
    split_ifs <;> exact hs
  | registered hm hp hraw hdata hr _ _ =>
    rw [entry_registerStores, if_neg fun ha => hreq.1 ⟨_, _, _, hm, hp, hraw, hdata, hr, ha⟩]
    exact hs
  | @removed _ c hm hc _ hid _ =>
    have hca : c ≠ a := by
      rintro rfl
      exact hreq.2 ⟨hm, hc, hid⟩
    rw [entry_removeStores, if_neg hca]
    exact hs
  | polled =>
    rw [entry_takeAll, Stores.entry_pollHeartbeat]
    split_ifs <;> exact hs
  | autoRegistered =>
    rw [entry_takeAll, Stores.entry_pollHeartbeat, entry_autoRegisterStores]
    split_ifs <;> simp only [Entry.autoRegister, hs, Option.getD_some]
  | halfPolled =>
    rw [entry_autoRegisterStores]
    split_ifs
    · simp only [Entry.autoRegister, hs, Option.getD_some]
    · exact hs

/-- What is advertised stays as long as nobody asks to change it. -/
theorem capabilities_run {b' : Broker} {tr : List Outcome} {fields : Fields}
    (hrun : (serialLts P cfg).Run (LeftAlone P cfg a) b tr b')
    (hb : (b.stores.entry a).capabilities = some fields) :
    (b'.stores.entry a).capabilities = some fields := by
  refine hrun.invariant (I := fun _ b => (b.stores.entry a).capabilities = some fields) hb ?_
  rintro tr b (⟨env, req⟩ | now) b' es hb hok hs
  · cases hs
    rcases handle_letIn_or P cfg env b req with ⟨p, hc, hin, heffect⟩ | hsame
    · exact heffect.capabilities (hok p hc hin) hb
    · rwa [hsame]
  · cases hs
    rcases entry_sweepOnce_or cfg now b.stores a with hentry | hentry
    · exact absurd hentry hok
    · change ((sweepOnce cfg now b.stores).entry a).capabilities = some fields
      rw [hentry, hb]

/-- What has been registered stays advertised. -/
theorem TakesUp.stays (h : TakesUp P cfg env b p e caps token) (hown : OwnEndpoint p e)
    {b' : Broker} {tr : List Outcome} (hrun : (serialLts P cfg).Run (LeftAlone P cfg e.agentId)
      (handle P cfg env (registerRequest P token e caps) b).2 tr b') :
    (b'.stores.entry e.agentId).capabilities = some (caps.getD []) := by
  refine capabilities_run hrun ?_
  rw [h.entry hown]
  rfl

/-- An agent that has registered is found by every client that gets the list, with what it
advertises, however many requests and sweeps come in between that leave it alone. -/
theorem advertised_until_changed (h : Served P cfg b) (htake : TakesUp P cfg env b p e caps token)
    (hown : OwnEndpoint p e) {b' : Broker} {tr : List Outcome}
    (hrun : (serialLts P cfg).Run (LeftAlone P cfg e.agentId)
      (handle P cfg env (registerRequest P token e caps) b).2 tr b')
    {env' : Env} {q : PyStr} {token' : Option PyStr} (hlist : ListsTo P cfg env' b' q token')
    (port : ℤ) :
    ∃ infos, Found P b'.stores port
        ((handle P cfg env' (agentsRequest token') b').1.httpAnswer P) infos
      ∧ ⟨e.agentId, caps.getD []⟩ ∈ infos := by
  have hfound := hlist.found ((h.handle env _).run hrun).aligned port
  exact ⟨_, hfound, (hfound.advertised _ _).2 (htake.stays hown hrun)⟩

/-! ### An agent that is found -/

/-- The texts `json.dumps` writes where every float is zero. -/
def zeroText : PyStr → PyStr
  | 78 :: 97 :: 78 :: s => lit "0.0" ++ zeroText s
  | c :: s => c :: zeroText s
  | [] => []

def zeroDumps (v : Json) : PyStr := zeroText (jsonText v)

/-- The interpreter of a table of such texts. -/
def zeroPython (values : List Json) : Python :=
  { asciiPython (values.map fun v => (zeroDumps v, v)) with jsonDumps := zeroDumps }

theorem zeroPython_conveys {values : List Json} {v : Json} (hv : v ∈ values)
    (hnodup : (values.map zeroDumps).Nodup)
    (hplain : (values.map zeroDumps).all plainText = true) : Conveys (zeroPython values) v := by
  have hget : Pairs.get? (zeroDumps v) (values.map fun v => (zeroDumps v, v)) = some v := by
    refine Pairs.get?_of_mem ?_ (List.mem_map.2 ⟨v, hv, rfl⟩)
    rw [List.map_map]
    exact hnodup
  have htext : plainText (zeroDumps v) = true :=
    List.all_eq_true.1 hplain _ (List.mem_map.2 ⟨v, hv, rfl⟩)
  simp only [plainText, Bool.and_eq_true, decide_eq_true_eq, List.all_eq_true] at htext
  obtain ⟨⟨hne, hsmall⟩, hlength⟩ := htext
  have hbyte : ∀ c ∈ zeroDumps v, (UInt8.ofNat c).toNat = c := fun c hc =>
    UInt8.toNat_ofNat_of_lt' (lt_trans (hsmall c hc) (by decide))
  have hascii : (asciiEncode (zeroDumps v)).all (· < 128) = true := by
    simp only [asciiEncode, List.all_map, List.all_eq_true, Function.comp_apply, decide_eq_true_eq]
    intro c hc
    rw [UInt8.lt_iff_toNat_lt, hbyte c hc]
    exact hsmall c hc
  have hbytes : (asciiEncode (zeroDumps v)).map UInt8.toNat = zeroDumps v := by
    rw [asciiEncode, List.map_map]
    exact (List.map_congr_left hbyte).trans (List.map_id _)
  have hcount : (asciiEncode (zeroDumps v)).length = (zeroDumps v).length := List.length_map _
  refine ⟨hne, (if_pos hascii).trans (congrArg Except.ok hbytes), ?_, ?_⟩
  · simp only [zeroPython, asciiPython, plainPython, hget]
  · simp only [zeroPython, asciiPython, plainPython, hcount, hlength]

/-- The mailbox agent `b`, and what it advertises. -/
def boxEndpoint : Endpoint :=
  { agentId := lit "b", host := lit "mailbox", port := 0, mailbox := true }

def boxCapabilities : Fields := [(lit "supported_kinds", .arr [.str (lit "monitor")])]

/-- What goes over the wire: the body `b` registers with, and the list it is in. -/
def foundValues : List Json :=
  [.obj (registerBody boxEndpoint (some boxCapabilities)),
    .obj [(lit "agents", .arr [.obj [(lit "agent_id", .str (lit "b")),
      (lit "capabilities", .obj boxCapabilities),
      (lit "last_seen_seconds_ago", .float (.finite 0)), (lit "ttl_seconds", .int 60),
      (lit "status", .str (lit "active")), (lit "mailbox", .bool true)]])]]

def foundPython : Python := zeroPython foundValues

theorem foundPython_conveys {v : Json} (hv : v ∈ foundValues) : Conveys foundPython v :=
  zeroPython_conveys hv (by decide +kernel) (by decide +kernel)

abbrev boxRegister : Request := registerRequest foundPython none boxEndpoint (some boxCapabilities)

def boxPoll : Request := ⟨lit "GET", lit "/messages?agent_id=b", none, none, []⟩

/-- The broker after `b` has registered, and after it has polled. -/
def registeredBroker : Broker := (handle foundPython .defaults downEnv boxRegister Broker.init).2

def boxBroker : Broker := (handle foundPython .defaults downEnv boxPoll registeredBroker).2

theorem boxRegister_taken : TakesUp foundPython .defaults downEnv Broker.init [] boxEndpoint
    (some boxCapabilities) none where
  admitted := ⟨rfl, rfl⟩
  conveyed := foundPython_conveys (.head _)
  fits := by decide +kernel

theorem box_own : OwnEndpoint [] boxEndpoint := by
  refine ⟨⟨by decide, by decide, .inl rfl, rfl, fun h => ?_, fun h => ?_⟩, fun h => absurd rfl h⟩
  · cases h
  · cases h

theorem registration_round_trip_box :
    registeredBroker.stores.entry boxEndpoint.agentId
      = (Broker.init.stores.entry boxEndpoint.agentId).register 0 boxEndpoint boxCapabilities
        (some 60) := by
  have hfiled : boxEndpoint.filed = boxEndpoint := by decide
  have hnew : Broker.init.stores.isNew boxEndpoint.agentId = true := by decide
  have hclock : downEnv.monotonic.register = 0 := rfl
  have httl : ServerConfig.defaults.defaultTtlSeconds = 60 := rfl
  obtain ⟨hentry, -⟩ := (registration_round_trip boxRegister_taken).1 box_own
  rw [registeredBroker, hentry, hfiled, hnew, if_pos rfl, hclock, httl, Option.getD_some]

/-- The poll leaves the registration alone. -/
theorem box_run : (serialLts foundPython .defaults).Run
    (LeftAlone foundPython .defaults boxEndpoint.agentId) registeredBroker
    [(handle foundPython .defaults downEnv boxPoll registeredBroker).1] boxBroker := by
  refine .single (a := .request downEnv boxPoll) (fun p _ _ => ⟨?_, ?_⟩) rfl
  · rintro ⟨_, _, _, hm, -⟩
    exact absurd hm (by decide)
  · rintro ⟨hm, -⟩
    exact absurd hm (by decide)

theorem box_capabilities :
    (boxBroker.stores.entry boxEndpoint.agentId).capabilities = some boxCapabilities :=
  boxRegister_taken.stays box_own box_run

theorem box_discovered : discover boxBroker.stores 0 = [[(lit "agent_id", .str (lit "b")),
    (lit "capabilities", .obj boxCapabilities), (lit "last_seen_seconds_ago", .float (.finite 0)),
    (lit "ttl_seconds", .int 60), (lit "status", .str (lit "active")),
    (lit "mailbox", .bool true)]] := by
  have hkeys : boxBroker.stores.capabilities.entries.map Prod.fst = [boxEndpoint.agentId] := by
    decide +kernel
  have hendpoint : boxBroker.stores.registry.get? boxEndpoint.agentId = some boxEndpoint := by
    decide +kernel
  have hbeat : boxBroker.stores.lastHeartbeat.get? boxEndpoint.agentId = some 0 := by
    decide +kernel
  have httl : boxBroker.stores.ttlSeconds.get? boxEndpoint.agentId = some 60 := by decide +kernel
  obtain ⟨⟨x, caps⟩, hentries, hx⟩ := List.map_eq_singleton_iff.1 hkeys
  have hcaps : boxBroker.stores.capabilities.get? x = some caps :=
    Dict.mem_entries.1 (by rw [hentries]; exact .head _)
  obtain rfl : x = boxEndpoint.agentId := hx
  have hbox := box_capabilities
  simp only [Stores.entry, hcaps, Option.some.injEq] at hbox
  obtain rfl := hbox
  have hage : (0 : ℚ) - 0 = 0 := sub_zero 0
  have hstatus : agentStatus (some 0) (some 60) 0 = .active := by decide +kernel
  simp only [discover, hentries, List.map_cons, List.map_nil, buildAgentEntry, hendpoint, hbeat,
    httl, Option.elim_some, hage, hstatus]
  rfl

theorem box_lists : ListsTo foundPython .defaults downEnv boxBroker [] none where
  authenticated := rfl
  passed := rfl
  conveyed := by
    have hfields : Listing.agentsFields boxBroker.stores downEnv.monotonic.discovery
        = Listing.agentsFields boxBroker.stores 0 := rfl
    rw [hfields, Listing.agentsFields, box_discovered]
    exact foundPython_conveys (.tail _ (.head _))

theorem discovery_agrees_box : ∃ infos, Found foundPython boxBroker.stores 8000
    ((handle foundPython .defaults downEnv (agentsRequest none) boxBroker).1.httpAnswer
      foundPython) infos := by
  have hstart : Served foundPython .defaults Broker.init := ⟨[], .refl⟩
  have hregistered : Served foundPython .defaults registeredBroker := hstart.handle _ _
  have hpolled : Served foundPython .defaults boxBroker := hregistered.handle _ _
  exact discovery_agrees hpolled 8000 box_lists

/-- `b` is found. -/
theorem advertised_until_changed_box : ∃ infos,
    Found foundPython boxBroker.stores 8000
        ((handle foundPython .defaults downEnv (agentsRequest none) boxBroker).1.httpAnswer
          foundPython) infos
      ∧ ⟨lit "b", boxCapabilities⟩ ∈ infos :=
  advertised_until_changed ⟨[], .refl⟩ boxRegister_taken box_own box_run box_lists 8000

end AgentComm
